import Pkcs11Proxy.Types.CkRv

namespace Pkcs11Proxy.Backend

open Pkcs11Proxy.Types

inductive ModuleState where
  | loadedUninitialized
  | initializing
  | opened
  | draining
  | finalizing
  | finalized
  | uncertain
deriving DecidableEq, Repr

def ModuleState.working : ModuleState → Bool
  | .initializing | .draining | .finalizing => true
  | _ => false

structure LifecycleInner where
  state : ModuleState
  epoch : UInt64
deriving DecidableEq, Repr

def LifecycleInner.new : LifecycleInner := ⟨.loadedUninitialized, 0⟩

structure ControlTicket where
  prior : ModuleState
  epoch : UInt64
deriving DecidableEq, Repr

inductive TicketKind where
  | init
  | finalize
deriving DecidableEq, Repr

def nextEpoch (epoch : UInt64) : Option UInt64 := if epoch.toNat + 1 < UInt64.size then some (epoch + 1) else none

namespace LifecycleInner

section

variable (inner : LifecycleInner)

def admitOrdinary : Except CkRv UInt64 :=
  match inner.state with
  | .opened => .ok inner.epoch
  | .uncertain => .error .generalError
  | _ => .error .cryptokiNotInitialized

def consumeEpoch (state : ModuleState) : Except CkRv (LifecycleInner × ControlTicket) :=
  match nextEpoch inner.epoch with
  | some epoch => .ok (⟨state, epoch⟩, ⟨inner.state, epoch⟩)
  | none => .error .generalError

def beginInitialize : Except CkRv (LifecycleInner × ControlTicket) :=
  match inner.state with
  | .draining | .finalizing => .error .cryptokiNotInitialized
  | _ => inner.consumeEpoch .initializing

def beginFinalize : Except CkRv (LifecycleInner × ControlTicket) :=
  match inner.state with
  | .opened => inner.consumeEpoch .draining
  | .uncertain => .error .generalError
  | _ => .error .cryptokiNotInitialized

def enterFinalizing (ticket : ControlTicket) : Except CkRv LifecycleInner :=
  if inner.epoch ≠ ticket.epoch ∨ inner.state ≠ .draining then .error .generalError
  else .ok { inner with state := .finalizing }

-- A stale ticket seals nothing. At u64::MAX the domain fails closed without an
-- epoch. The incarnation purge runs exactly when the answer is OK.
def settlePublishFrom (current published : ModuleState) (inner : LifecycleInner) (ticket : ControlTicket) : LifecycleInner × CkRv :=
  if inner.epoch ≠ ticket.epoch ∨ inner.state ≠ current then (inner, .generalError)
  else
    match nextEpoch inner.epoch with
    | some epoch => (⟨published, epoch⟩, .ok)
    | none => ({ inner with state := .uncertain }, .generalError)

def settlePublish : TicketKind → LifecycleInner → ControlTicket → LifecycleInner × CkRv
  | .init => settlePublishFrom .initializing .opened
  | .finalize => settlePublishFrom .finalizing .finalized

def restored (prior : ModuleState) : ModuleState := if prior.working then .uncertain else prior

-- Both ticket kinds abandon alike, and so do their destructors. The flag tells the
-- record closure whether the ticket was still current.
def abandonRaw (ticket : ControlTicket) : LifecycleInner × Bool :=
  if inner.epoch = ticket.epoch then (⟨restored ticket.prior, (nextEpoch inner.epoch).getD inner.epoch⟩, true)
  else (inner, false)

end

end LifecycleInner

inductive ControlRequest where
  | beginInitialize
  | beginFinalize
  | enterFinalizing (ticket : ControlTicket) (entered : Bool)
  | settlePublish (kind : TicketKind) (ticket : ControlTicket)
deriving DecidableEq, Repr

-- A thread at each of its program points, or what it holds. An `admitted` thread
-- holds the read lock. `entered` is set once `enter_finalizing` succeeded: from
-- there on the native call may run.
inductive DomainThread where
  | admitting
  | reading
  | admitted (epoch : UInt64)
  | sealing (misses : Nat)
  | queued (request : ControlRequest)
  | holding (kind : TicketKind) (ticket : ControlTicket) (entered : Bool)
  | abandoning (ticket : ControlTicket)
  | finished (rv : CkRv)
deriving DecidableEq, Repr

def DomainThread.isAdmitted : DomainThread → Bool
  | .admitted _ => true
  | _ => false

def DomainThread.isQueued : DomainThread → Bool
  | .queued _ => true
  | _ => false

def ControlRequest.ticket : ControlRequest → Option ControlTicket
  | .enterFinalizing ticket _ | .settlePublish _ ticket => some ticket
  | _ => none

def DomainThread.ticket : DomainThread → Option ControlTicket
  | .holding _ ticket _ | .abandoning ticket => some ticket
  | .queued request => request.ticket
  | _ => none

structure LifecycleDomain where
  inner : LifecycleInner
  threads : List DomainThread
deriving DecidableEq, Repr

namespace LifecycleDomain

def new : LifecycleDomain := ⟨LifecycleInner.new, []⟩

def drained (domain : LifecycleDomain) : Bool := !domain.threads.any DomainThread.isAdmitted

def writerWaiting (domain : LifecycleDomain) : Nat := domain.threads.countP DomainThread.isQueued

def setThread (domain : LifecycleDomain) (k : Nat) (thread : DomainThread) : LifecycleDomain :=
  { domain with threads := domain.threads.set k thread }

def addThread (domain : LifecycleDomain) (thread : DomainThread) : LifecycleDomain :=
  { domain with threads := domain.threads ++ [thread] }

end LifecycleDomain

def begun (kind : TicketKind) (inner : LifecycleInner) (result : Except CkRv (LifecycleInner × ControlTicket)) :
    LifecycleInner × DomainThread :=
  match result with
  | .ok (next, ticket) => (next, .holding kind ticket false)
  | .error rv => (inner, .finished rv)

def runSection (inner : LifecycleInner) : ControlRequest → LifecycleInner × DomainThread
  | .beginInitialize => begun .init inner inner.beginInitialize
  | .beginFinalize => begun .finalize inner inner.beginFinalize
  | .enterFinalizing ticket entered =>
    match inner.enterFinalizing ticket with
    | .ok next => (next, .holding .finalize ticket true)
    | .error _ => (inner, .holding .finalize ticket entered)
  | .settlePublish kind ticket =>
    let done := LifecycleInner.settlePublish kind inner ticket
    (done.1, .finished done.2)

def finalizeSealSpinMisses : Nat := 1000

def runLocked (domain : LifecycleDomain) (k : Nat) (request : ControlRequest) : LifecycleDomain :=
  let done := runSection domain.inner request
  { domain with inner := done.1, threads := domain.threads.set k done.2 }

-- One step of thread `k`. A missed `try_write` past the shutdown deadline ends the
-- process, so it has no next state.
def advanceThread (domain : LifecycleDomain) (k : Nat) : DomainThread → Option LifecycleDomain
  | .admitting => if domain.writerWaiting > 0 then none else some (domain.setThread k .reading)
  | .reading =>
    match domain.inner.admitOrdinary with
    | .ok epoch => some (domain.setThread k (.admitted epoch))
    | .error rv => some (domain.setThread k (.finished rv))
  | .admitted _ => some (domain.setThread k (.finished .ok))
  | .sealing misses =>
    if domain.drained then some (runLocked domain k .beginFinalize)
    else if misses + 1 > finalizeSealSpinMisses then some (domain.setThread k (.queued .beginFinalize))
    else some (domain.setThread k (.sealing (misses + 1)))
  | .queued request => if domain.drained then some (runLocked domain k request) else none
  | .holding _ _ _ => none
  | .abandoning ticket =>
    if domain.drained then
      some { domain with inner := (domain.inner.abandonRaw ticket).1, threads := domain.threads.set k (.finished .ok) }
    else none
  | .finished _ => none

inductive DomainAction where
  | admitOrdinary
  | beginInitialize
  | beginFinalizeWithDeadline
  | enterFinalizing (k : Nat)
  | settlePublish (k : Nat)
  | abandon (k : Nat)
  | dropTicket (k : Nat)
  | advance (k : Nat)
deriving DecidableEq, Repr

def useTicket (domain : LifecycleDomain) (k : Nat) (use : TicketKind → ControlTicket → Bool → Option DomainThread) :
    Option LifecycleDomain :=
  match domain.threads[k]? with
  | some (.holding kind ticket entered) => (use kind ticket entered).map (domain.setThread k)
  | _ => none

def queueEnter : TicketKind → ControlTicket → Bool → Option DomainThread
  | .finalize, ticket, entered => some (.queued (.enterFinalizing ticket entered))
  | .init, _, _ => none

def domainStep (domain : LifecycleDomain) : DomainAction → Option LifecycleDomain
  | .admitOrdinary => some (domain.addThread .admitting)
  | .beginInitialize => some (domain.addThread (.queued .beginInitialize))
  | .beginFinalizeWithDeadline => some (domain.addThread (.sealing 0))
  | .enterFinalizing k => useTicket domain k queueEnter
  | .settlePublish k => useTicket domain k fun kind ticket _ => some (.queued (.settlePublish kind ticket))
  | .abandon k | .dropTicket k => useTicket domain k fun _ ticket _ => some (.abandoning ticket)
  | .advance k => domain.threads[k]?.bind (advanceThread domain k)

end Pkcs11Proxy.Backend
