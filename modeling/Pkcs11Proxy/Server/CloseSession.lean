import Pkcs11Proxy.Server.ClientInstance

namespace Pkcs11Proxy.Server

open Lib Pkcs11Proxy.Types

inductive CloseSessionCompletion where
  | terminal
  | transient
  | ambiguous
deriving DecidableEq, Repr

def closeSessionCompletion (result : CkRv) : CloseSessionCompletion :=
  if result = .ok then .terminal
  else if result = .sessionClosed ∨ result = .sessionHandleInvalid then .terminal
  else if result = .deviceError then .ambiguous
  else .transient

namespace LogicalClientInstance

-- Only the expected suspended tuple is touched; a stale completion does nothing.
def completeCloseSession (context : LogicalClientInstance) (virt : VirtualHandle) (expected : BackendHandle)
    (completion : CloseSessionCompletion) : LogicalClientInstance :=
  if context.sessionHandles.suspendedBackend virt ≠ some expected then context
  else
    match completion with
    | .terminal => (context.removeSession virt).1
    | .transient =>
      let (handles, reactivated) := context.sessionHandles.reactivateSuspended virt expected
      if reactivated then { context with sessionHandles := handles }
      else { context with sessionHandles := handles }.dropMessageOperations virt
    | .ambiguous => context.dropMessageOperations virt

end LogicalClientInstance

-- `answer` is what the native close returned; `completions` is ghost state: how often
-- the token ran the completion path.
structure CloseSessionTransition where
  virtualSession : VirtualHandle
  backendHandle : BackendHandle
  started : Bool
  settled : Bool
  answer : Option CkRv
  dropped : Bool
  completions : Nat
deriving DecidableEq, Repr

-- One context and the provider's open sessions behind it. `registered` is ghost
-- state: the number of sessions registered so far.
structure CloseSystem where
  context : LogicalClientInstance
  nativeSessions : Finset BackendHandle
  transitions : List CloseSessionTransition
  registered : Nat

def CloseSystem.new : CloseSystem := ⟨LogicalClientInstance.new, ∅, [], 0⟩

inductive CloseAction where
  | registerSession (backend : BackendHandle) (slot : BackendSlotId)
  | login (slot : BackendSlotId) (login : LoginState)
  | messageOperation (virt : VirtualHandle) (operation : MessageOperation) (cell : Nat)
  | beginClose (virt : VirtualHandle)
  | markStarted (k : Nat)
  | nativeClose (k : Nat) (rv : CkRv)
  | settle (k : Nat)
  | drop (k : Nat)
deriving DecidableEq, Repr

def CloseSessionTransition.completesAs (transition : CloseSessionTransition) (k : Nat) : CloseAction → Option CloseSessionCompletion
  | .settle j => if j = k then transition.answer.map closeSessionCompletion else none
  | .drop j =>
    if j = k ∧ transition.settled = false then some (if transition.started then .ambiguous else .transient) else none
  | _ => none

section Steps

variable (system : CloseSystem)

def openBackendSession (backend : BackendHandle) (slot : BackendSlotId) : CloseSystem :=
  { system with
      context := (system.context.registerSession backend slot).1
      nativeSessions := insert backend system.nativeSessions
      registered := system.registered + 1 }

def messageOperationLock (virt : VirtualHandle) (operation : MessageOperation) (cell : Nat) : CloseSystem :=
  if (system.context.messageOperations.lookup (virt, operation)).isSome then system
  else
    { system with
        context := { system.context with messageOperations := system.context.messageOperations.insert (virt, operation) cell } }

def beginCloseSessionWithGuard (virt : VirtualHandle) : CloseSystem :=
  let (handles, suspended) := system.context.sessionHandles.suspend virt
  match suspended with
  | some backend =>
    { system with
        context := { system.context with sessionHandles := handles }
        transitions := system.transitions ++ [⟨virt, backend, false, false, none, false, 0⟩] }
  | none => system

def complete (k : Nat) (transition after : CloseSessionTransition) (completion : CloseSessionCompletion) : CloseSystem :=
  { system with
      context := system.context.completeCloseSession transition.virtualSession transition.backendHandle completion
      transitions := system.transitions.set k { after with completions := transition.completions + 1 } }

-- The provider may hand out again the number of a session it closed. A login names a
-- registered session of the slot, a message operation an active one.
def closeStep : CloseAction → Option CloseSystem
  | .registerSession backend slot =>
    if backend ∈ system.nativeSessions then none else some (openBackendSession system backend slot)
  | .login slot login =>
    if system.context.hasSessionOn slot then
      some { system with context := { system.context with loginState := system.context.loginState.insert slot login } }
    else none
  | .messageOperation virt operation cell =>
    if (system.context.sessionHandles.resolve virt).isSome then some (messageOperationLock system virt operation cell) else none
  | .beginClose virt => some (beginCloseSessionWithGuard system virt)
  | .markStarted k =>
    system.transitions[k]?.bind fun transition =>
      if transition.dropped = false then
        some { system with transitions := system.transitions.set k { transition with started := true } }
      else none
  | .nativeClose k rv =>
    system.transitions[k]?.bind fun transition =>
      if transition.started ∧ transition.answer = none ∧ transition.settled = false ∧ transition.dropped = false then
        some { system with
          nativeSessions := if rv = .ok then system.nativeSessions.erase transition.backendHandle else system.nativeSessions
          transitions := system.transitions.set k { transition with answer := some rv } }
      else none
  | .settle k =>
    system.transitions[k]?.bind fun transition =>
      if transition.settled = false ∧ transition.dropped = false then
        transition.answer.map fun rv =>
          complete system k transition { transition with settled := true } (closeSessionCompletion rv)
      else none
  | .drop k =>
    system.transitions[k]?.bind fun transition =>
      if transition.dropped then none
      else if transition.settled then
        some { system with transitions := system.transitions.set k { transition with dropped := true } }
      else
        some (complete system k transition { transition with dropped := true } (if transition.started then .ambiguous else .transient))

inductive CloseMove : CloseAction → CloseSystem → Prop
  | registered {backend : BackendHandle} {slot : BackendSlotId} (unused : backend ∉ system.nativeSessions) :
      CloseMove (.registerSession backend slot) (openBackendSession system backend slot)
  | loggedIn {slot : BackendSlotId} {login : LoginState} (registered : system.context.hasSessionOn slot = true) : CloseMove (.login slot login)
      { system with context := { system.context with loginState := system.context.loginState.insert slot login } }
  | locked {virt : VirtualHandle} {operation : MessageOperation} {cell : Nat} (operations : Dict (VirtualHandle × MessageOperation) Nat) :
      CloseMove (.messageOperation virt operation cell) { system with context := { system.context with messageOperations := operations } }
  | missed {virt : VirtualHandle} : CloseMove (.beginClose virt) system
  | begun {virt : VirtualHandle} {backend : BackendHandle} (active : system.context.sessionHandles.resolve virt = some backend) :
      CloseMove (.beginClose virt) { system with
        context := { system.context with sessionHandles := (system.context.sessionHandles.suspend virt).1 }
        transitions := system.transitions ++ [⟨virt, backend, false, false, none, false, 0⟩] }
  | marked {k : Nat} {before : CloseSessionTransition} (at_ : system.transitions[k]? = some before) : CloseMove (.markStarted k)
      { system with transitions := system.transitions.set k { before with started := true } }
  | closed {k : Nat} {rv : CkRv} {before : CloseSessionTransition} (at_ : system.transitions[k]? = some before)
      (started : before.started = true) (unanswered : before.answer = none) (unsettled : before.settled = false)
      (undropped : before.dropped = false) : CloseMove (.nativeClose k rv) { system with
        nativeSessions := if rv = .ok then system.nativeSessions.erase before.backendHandle else system.nativeSessions
        transitions := system.transitions.set k { before with answer := some rv } }
  | settled {k : Nat} {rv : CkRv} {before : CloseSessionTransition} (at_ : system.transitions[k]? = some before)
      (unsettled : before.settled = false) (undropped : before.dropped = false) (answer : before.answer = some rv) :
      CloseMove (.settle k) (complete system k before { before with settled := true } (closeSessionCompletion rv))
  | released {k : Nat} {before : CloseSessionTransition} (at_ : system.transitions[k]? = some before) (settled : before.settled = true) :
      CloseMove (.drop k) { system with transitions := system.transitions.set k { before with dropped := true } }
  | dropped {k : Nat} {before : CloseSessionTransition} (at_ : system.transitions[k]? = some before)
      (unsettled : before.settled = false) (undropped : before.dropped = false) : CloseMove (.drop k)
      (complete system k before { before with dropped := true } (if before.started then .ambiguous else .transient))

variable {system}

theorem close_step_move {action : CloseAction} {next : CloseSystem} (taken : closeStep system action = some next) :
    CloseMove system action next := by
  cases action with
  | registerSession | login =>
    rw [closeStep] at taken
    split at taken <;> cases taken
    constructor
    assumption
  | messageOperation virt operation cell =>
    rw [closeStep] at taken
    split at taken <;> cases taken
    rw [messageOperationLock]
    split
    · exact .locked system.context.messageOperations
    · exact .locked _
  | beginClose virt =>
    cases taken
    rw [beginCloseSessionWithGuard]
    cases active : system.context.sessionHandles.virtualToBackend.lookup virt with
    | none =>
      simp only [HandleMap.suspend, active]
      exact .missed
    | some backend =>
      have begun : CloseMove system (.beginClose virt) _ := .begun active
      simp only [HandleMap.suspend, active] at begun ⊢
      exact begun
  | markStarted | nativeClose =>
    obtain ⟨before, at_, moved⟩ := Option.bind_eq_some_iff.mp taken
    split at moved <;> cases moved
    constructor <;> grind
  | settle k =>
    obtain ⟨before, at_, moved⟩ := Option.bind_eq_some_iff.mp taken
    split at moved
    · rename_i ready
      obtain ⟨rv, answer, rfl⟩ := Option.map_eq_some_iff.mp moved
      exact .settled at_ ready.1 ready.2 answer
    · cases moved
  | drop k =>
    obtain ⟨before, at_, moved⟩ := Option.bind_eq_some_iff.mp taken
    split at moved
    · cases moved
    · rename_i undropped
      split at moved <;> cases moved
      · exact .released at_ (by assumption)
      · rename_i unsettled
        exact .dropped at_ (Bool.eq_false_iff.mpr unsettled) (Bool.eq_false_iff.mpr undropped)

end Steps

end Pkcs11Proxy.Server
