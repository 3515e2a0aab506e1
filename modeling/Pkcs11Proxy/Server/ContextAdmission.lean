import Pkcs11Proxy.Types.CkRv
import Pkcs11Proxy.Server.ConnectionGroups

namespace Pkcs11Proxy.Server

open Lib Pkcs11Proxy.Types

structure AdmissionConfig where
  maxContexts : Nat
  leaseDuration : Nat
  maxContextLifetime : Nat

structure AdmittedContext where
  authenticatedIdentity : Option String
  createdAt : Nat
  lastActive : Nat
  inFlight : Int
  hasOpenBackendSessions : Bool
  binding : ContextBinding
deriving DecidableEq, Repr

namespace AdmittedContext

def newWithConnection (identity : Option String) (connection : Option Nat) (now : Nat) : AdmittedContext :=
  ⟨identity, now, now, 0, false, ContextBinding.newWithConnection connection⟩

def isReapable (config : AdmissionConfig) (connections : ConnectionSystem) (context : AdmittedContext) (now : Nat) : Bool :=
  if context.inFlight ≠ 0 then false
  else if context.binding.isTransportDead connections then true
  else
    decide (config.leaseDuration < now - context.lastActive) &&
      (!context.hasOpenBackendSessions || decide (config.maxContextLifetime < now - context.createdAt))

def expiredSessionless (config : AdmissionConfig) (connections : ConnectionSystem) (now : Nat) (context : AdmittedContext) : Bool :=
  context.isReapable config connections now && !context.hasOpenBackendSessions

def isReplaceable (connections : ConnectionSystem) (connection : Option Nat) (context : AdmittedContext) : Bool :=
  decide (context.inFlight ≤ 0) && (context.binding.isTransportDead connections || context.binding.sameConnectionAs connections connection)

end AdmittedContext

-- `create_context` passes no connection; only the Initialize path replaces.
structure CreateCall where
  identity : Option String
  connection : Option Nat
  replaces : Bool
deriving DecidableEq, Repr

-- From `checking` to `unlocking` the caller holds the admission mutex. The scans
-- collect ids shard by shard, in any order.
inductive CreatePhase where
  | locking
  | checking
  | scanning (now : Nat) (expired : List Nat)
  | evicting (now : Nat) (expired : List Nat)
  | rechecking
  | choosing (want : String) (candidates : List Nat)
  | replacing (want : String) (candidates : List Nat)
  | lastCheck
  | inserting (replaced : Option AdmittedContext)
  | unlocking (id : Nat) (replaced : Option AdmittedContext)
  | reserved
  | inserted (id : Nat)
  | cancelled
  | created (id : Nat) (replaced : Option AdmittedContext)
  | refused (rv : CkRv)
  | abandoned
deriving DecidableEq, Repr

structure Creator where
  call : CreateCall
  phase : CreatePhase
deriving DecidableEq, Repr

structure AdmissionSystem where
  contexts : Dict Nat AdmittedContext
  nextId : Nat
  outstanding : Nat
  locked : Bool
  creators : List Creator
  connections : ConnectionSystem
  now : Nat

namespace AdmissionSystem

def new : AdmissionSystem := ⟨∅, 0, 0, false, [], ConnectionSystem.new, 0⟩

def full (config : AdmissionConfig) (system : AdmissionSystem) : Bool :=
  decide (0 < config.maxContexts) && decide (config.maxContexts ≤ dictSize system.contexts + system.outstanding)

def find (system : AdmissionSystem) (id : Nat) : Option AdmittedContext := Finmap.lookup id system.contexts

def removeIf (system : AdmissionSystem) (id : Nat) (allowed : AdmittedContext → Bool) : AdmissionSystem × Option AdmittedContext :=
  match system.find id with
  | some context => if allowed context then ({ system with contexts := system.contexts.erase id }, some context) else (system, none)
  | none => (system, none)

def insert (system : AdmissionSystem) (call : CreateCall) : AdmissionSystem :=
  { system with
      contexts := system.contexts.insert system.nextId (AdmittedContext.newWithConnection call.identity call.connection system.now)
      nextId := system.nextId + 1 }

end AdmissionSystem

section Admission

variable (config : AdmissionConfig) (system : AdmissionSystem)

def admitContext (call : CreateCall) : AdmissionSystem × CreatePhase :=
  if call.replaces then (system, .inserting none)
  else
    ({ system with
        outstanding := if 0 < config.maxContexts then system.outstanding + 1 else system.outstanding
        locked := false }, .reserved)

def refuse : AdmissionSystem × CreatePhase := ({ system with locked := false }, .refused .hostMemory)

def advanceCreate (call : CreateCall) (scanned : Option Nat) : CreatePhase → Option (AdmissionSystem × CreatePhase)
  | .locking => if system.locked then none else some ({ system with locked := true }, .checking)
  | .checking => some (if system.full config then (system, .scanning system.now []) else admitContext config system call)
  | .scanning now expired =>
    match scanned with
    | none => some (system, .evicting now expired)
    | some id =>
      let visited := (system.find id).any (AdmittedContext.expiredSessionless config system.connections now)
      some (system, .scanning now (if visited then expired ++ [id] else expired))
  | .evicting _ [] => some (system, .rechecking)
  | .evicting now (id :: rest) =>
    some ((system.removeIf id (AdmittedContext.expiredSessionless config system.connections now)).1, .evicting now rest)
  | .rechecking =>
    if system.full config then
      if call.replaces then
        match call.identity with
        | some want => some (system, .choosing want [])
        | none => some (system, .lastCheck)
      else some (refuse system)
    else some (admitContext config system call)
  | .choosing want candidates =>
    match scanned with
    | none => some (system, .replacing want candidates)
    | some id =>
      let visited := (system.find id).any fun context => context.authenticatedIdentity == some want
      some (system, .choosing want (if visited then candidates ++ [id] else candidates))
  | .replacing _ [] => some (system, .lastCheck)
  | .replacing want (id :: rest) =>
    match system.removeIf id (AdmittedContext.isReplaceable system.connections call.connection) with
    | (next, some replaced) => some (next, .inserting (some replaced))
    | (next, none) => some (next, .replacing want rest)
  | .lastCheck => some (if system.full config then refuse system else (system, .inserting none))
  | .inserting replaced => some (system.insert call, .unlocking system.nextId replaced)
  | .unlocking id replaced => some ({ system with locked := false }, .created id replaced)
  | .reserved => some (system.insert call, .inserted system.nextId)
  | .inserted id => if system.locked then none else some ({ system with outstanding := system.outstanding - 1 }, .created id none)
  | .cancelled => if system.locked then none else some ({ system with outstanding := system.outstanding - 1 }, .abandoned)
  | .created _ _ => none
  | .refused _ => none
  | .abandoned => none

inductive AdmissionAction where
  | call (call : CreateCall)
  | advance (k : Nat) (scanned : Option Nat)
  | cancel (k : Nat)
  | removeContext (id : Nat)
  | removeContextIfIdle (id : Nat) (ownGuards : Int)
  | evictExpired (id : Nat) (now : Nat)
  | change (id : Nat) (context : AdmittedContext)
  | transport (action : ConnectionAction)
  | tick (now : Nat)

-- A live context changes in any way between two steps, but its identity was bound
-- when it was created.
def changeContext (id : Nat) (context : AdmittedContext) : Option AdmissionSystem :=
  (system.find id).map fun old =>
    { system with contexts := system.contexts.insert id { context with authenticatedIdentity := old.authenticatedIdentity } }

def admissionStep : AdmissionAction → Option AdmissionSystem
  | .call call => some { system with creators := system.creators ++ [⟨call, .locking⟩] }
  | .advance k scanned =>
    system.creators[k]?.bind fun creator =>
      (advanceCreate config system creator.call scanned creator.phase).map fun done =>
        { done.1 with creators := system.creators.set k { creator with phase := done.2 } }
  | .cancel k =>
    system.creators[k]?.bind fun creator =>
      if creator.phase = .reserved then some { system with creators := system.creators.set k { creator with phase := .cancelled } }
      else none
  | .removeContext id => some (system.removeIf id fun _ => true).1
  | .removeContextIfIdle id ownGuards => some (system.removeIf id fun context => decide (context.inFlight ≤ ownGuards)).1
  | .evictExpired id now => some (system.removeIf id fun context => context.isReapable config system.connections now).1
  | .change id context => changeContext system id context
  | .transport action => (connectionStep system.connections action).map fun connections => { system with connections := connections }
  | .tick now => if system.now ≤ now then some { system with now := now } else none

end Admission

end Pkcs11Proxy.Server
