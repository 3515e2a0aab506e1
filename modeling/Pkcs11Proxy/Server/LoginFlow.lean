import Pkcs11Proxy.Lib.Exec
import Pkcs11Proxy.Lib.Lines
import Pkcs11Proxy.Server.HandleMap
import Pkcs11Proxy.Types.CkRv

namespace Pkcs11Proxy.Server

open Lib Pkcs11Proxy.Types

inductive LoginState where
  | so
  | user
deriving DecidableEq, Repr

inductive CkUserType where
  | so
  | user
  | contextSpecific
deriving DecidableEq, Repr

def CkUserType.fromRaw (raw : UInt64) : Option CkUserType :=
  if raw = 0 then some .so else if raw = 1 then some .user else if raw = 2 then some .contextSpecific else none

def loginStateForUserType : CkUserType → Option LoginState
  | .so => some .so
  | .user => some .user
  | .contextSpecific => none

structure LoginRequest where
  context : ClientContextId
  userType : UInt64
  pin : Option Bytes
deriving DecidableEq, Repr

-- A Login or Logout handler at each of its program points. From `Locked` to
-- `Answered` it holds the slot's login lock, except inside the reconciliation.
inductive AuthHandler where
  | loginQueued (request : LoginRequest) (userType : CkUserType)
  | loginLocked (request : LoginRequest) (userType : CkUserType)
  | loginCalling (request : LoginRequest) (userType : CkUserType)
  | loginAnswered (request : LoginRequest) (userType : CkUserType) (result : CkRv)
  | reconciling (request : LoginRequest) (userType : CkUserType)
  | reconciled (request : LoginRequest) (userType : CkUserType)
  | retryCalling (request : LoginRequest) (userType : CkUserType)
  | retryAnswered (request : LoginRequest) (userType : CkUserType) (result : CkRv)
  | logoutQueued (context : ClientContextId)
  | logoutLocked (context : ClientContextId)
  | logoutCalling (context : ClientContextId)
  | logoutAnswered (context : ClientContextId) (result : CkRv)
  | finished (rv : CkRv)
deriving DecidableEq, Repr

-- One slot: the backend's own flag, the holder of the login lock (an index into
-- the handlers), and what each live context has recorded for the slot. Every
-- context has a session open on the slot, so resolving one never fails.
structure SlotState where
  loggedIn : Bool
  lock : Option Nat
  loginState : Dict ClientContextId LoginState
  contended : Finset ClientContextId
  handlers : List AuthHandler
deriving DecidableEq

def SlotState.initial (loggedIn : Bool) : SlotState := ⟨loggedIn, none, ∅, ∅, []⟩

def SlotState.setHandler (state : SlotState) (i : Nat) (handler : AuthHandler) : SlotState :=
  { state with handlers := state.handlers.set i handler }

def SlotState.finish (state : SlotState) (i : Nat) (rv : CkRv) : SlotState :=
  { state.setHandler i (.finished rv) with lock := none }

def anyLoginStateForSlot (state : SlotState) : Bool := !state.loginState.keys.card == 0

def otherLoginStateForSlot (state : SlotState) (context : ClientContextId) : Bool :=
  !(state.loginState.erase context).keys.card == 0

structure TokenPins where
  accepts : CkUserType → Option Bytes → Bool

section

variable (token : TokenPins)

section

variable (state : SlotState)

def backendLogin (userType : CkUserType) (pin : Option Bytes) : SlotState × CkRv :=
  if state.loggedIn then (state, .userAlreadyLoggedIn)
  else if token.accepts userType pin then ({ state with loggedIn := true }, .ok)
  else (state, .pinIncorrect)

def backendLogout : SlotState × CkRv :=
  if state.loggedIn then ({ state with loggedIn := false }, .ok) else (state, .userNotLoggedIn)

def alreadyLoggedIn (rv : CkRv) : Bool := rv == .userAlreadyLoggedIn || rv == .userAnotherAlreadyLoggedIn

def concludeLogin (i : Nat) (request : LoginRequest) (userType : CkUserType) (result : CkRv) : SlotState :=
  if result = .ok then
    match loginStateForUserType userType with
    | some loginState => { state with loginState := state.loginState.insert request.context loginState }.finish i .ok
    | none => state.finish i .ok
  else if alreadyLoggedIn result ∧ request.pin.isSome ∧ (loginStateForUserType userType).isSome then
    { state with contended := insert request.context state.contended }.finish i result
  else state.finish i result

def releaseLogin (context : ClientContextId) : SlotState :=
  { state with loginState := state.loginState.erase context, contended := state.contended.erase context }

-- The next step of a handler that need not wait. `cooling` is the answer of the
-- slot's failed-login budget, which only a fresh login asks for.
def advanceHandler (i : Nat) (cooling : Bool) : AuthHandler → Option SlotState
  | .loginLocked request userType =>
    if cooling then some (state.finish i .pinLocked) else some (state.setHandler i (.loginCalling request userType))
  | .loginCalling request userType =>
    let (next, result) := backendLogin token state userType request.pin
    some (next.setHandler i (.loginAnswered request userType result))
  | .loginAnswered request userType result =>
    if alreadyLoggedIn result ∧ anyLoginStateForSlot state = false then
      some { state.setHandler i (.reconciling request userType) with lock := none }
    else some (concludeLogin state i request userType result)
  | .reconciling request userType => some ((backendLogout state).1.setHandler i (.reconciled request userType))
  | .retryCalling request userType =>
    let (next, result) := backendLogin token state userType request.pin
    some (next.setHandler i (.retryAnswered request userType result))
  | .retryAnswered request userType result => some (concludeLogin state i request userType result)
  | .logoutLocked context =>
    let current := state.loginState.lookup context
    let other := otherLoginStateForSlot state context
    if current.isNone ∧ other then
      some ({ state with contended := state.contended.erase context }.finish i .userNotLoggedIn)
    else if current.isSome ∧ other then some ((releaseLogin state context).finish i .ok)
    else some (state.setHandler i (.logoutCalling context))
  | .logoutCalling context =>
    let (next, result) := backendLogout state
    some (next.setHandler i (.logoutAnswered context result))
  | .logoutAnswered context result =>
    if result = .ok then some ((releaseLogin state context).finish i .ok) else some (state.finish i result)
  | _ => none

def AuthHandler.locked : AuthHandler → Option AuthHandler
  | .loginQueued request userType => some (.loginLocked request userType)
  | .reconciled request userType => some (.retryCalling request userType)
  | .logoutQueued context => some (.logoutLocked context)
  | _ => none

-- `refuse` is a lock wait that hits its bound.
inductive AuthAction where
  | login (request : LoginRequest)
  | logout (context : ClientContextId)
  | acquire (i : Nat)
  | refuse (i : Nat)
  | advance (i : Nat) (cooling : Bool)
deriving DecidableEq, Repr

def authStep : AuthAction → Option SlotState
  | .login request =>
    match CkUserType.fromRaw request.userType with
    | some userType => some { state with handlers := state.handlers ++ [.loginQueued request userType] }
    | none => some { state with handlers := state.handlers ++ [.finished .userTypeInvalid] }
  | .logout context => some { state with handlers := state.handlers ++ [.logoutQueued context] }
  | .acquire i =>
    if state.lock.isNone then
      (state.handlers[i]?.bind AuthHandler.locked).map fun handler => { state.setHandler i handler with lock := some i }
    else none
  | .refuse i => (state.handlers[i]?.bind AuthHandler.locked).map fun _ => state.setHandler i (.finished .generalError)
  | .advance i cooling => state.handlers[i]?.bind (advanceHandler token state i cooling)

end

end

end Pkcs11Proxy.Server
