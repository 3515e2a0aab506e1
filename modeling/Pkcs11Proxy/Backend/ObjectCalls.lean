import Pkcs11Proxy.Backend.SessionFence
import Pkcs11Proxy.Types.CkRv

namespace Pkcs11Proxy.Backend

open Lib Pkcs11Proxy.Types

-- One record per object number: its current lifetime and the session that owns
-- the record.
structure ObjectLifetimeEntry where
  lifetime : UInt64
  owner : UInt64
deriving DecidableEq, Repr

-- `draws` is ghost state: how many ids the wrapping counter has handed out.
structure ObjectLifetimeTable where
  entries : UInt64 → Option ObjectLifetimeEntry
  next : UInt64
  draws : Nat

namespace ObjectLifetimeTable

def initial : ObjectLifetimeTable := ⟨fun _ => none, 1, 0⟩

section

variable (table : ObjectLifetimeTable)

def draw (session object : UInt64) : ObjectLifetimeTable :=
  ⟨Function.update table.entries object (some ⟨table.next, session⟩), table.next + 1, table.draws + 1⟩

def recordFresh (session object : UInt64) : ObjectLifetimeTable × UInt64 × Bool :=
  (table.draw session object, table.next, (table.entries object).isSome)

def recordIfAbsent (session object : UInt64) : ObjectLifetimeTable :=
  if (table.entries object).isSome then table else table.draw session object

def remove (object : UInt64) : ObjectLifetimeTable :=
  { table with entries := Function.update table.entries object none }

def dropSession (session : UInt64) : ObjectLifetimeTable :=
  { table with entries := fun object => (table.entries object).filter fun entry => entry.owner ≠ session }

end

end ObjectLifetimeTable

structure CaptureState where
  session : UInt64
  pairs : List (UInt64 × UInt64)
deriving DecidableEq, Repr

def setPair (object lifetime : UInt64) : List (UInt64 × UInt64) → List (UInt64 × UInt64)
  | [] => [(object, lifetime)]
  | pair :: rest => if pair.1 = object then (object, lifetime) :: rest else pair :: setPair object lifetime rest

abbrev CaptureStack := List CaptureState

def CaptureStack.poison (stack : CaptureStack) (session object : UInt64) : CaptureStack :=
  match stack with
  | [] => []
  | capture :: rest =>
    if object ≠ 0 ∧ capture.session = session then
      { capture with pairs := capture.pairs.filter fun pair => pair.1 ≠ object } :: rest
    else capture :: rest

def CaptureStack.report (stack : CaptureStack) (session object lifetime : UInt64) : CaptureStack :=
  match stack with
  | [] => []
  | capture :: rest =>
    if object ≠ 0 ∧ lifetime ≠ 0 ∧ capture.session = session then
      { capture with pairs := setPair object lifetime capture.pairs } :: rest
    else capture :: rest

abbrev ObjectId := Nat

-- The calls that enter one session's fence for reading. A mint stands for every
-- object-making call; its thread is the one whose capture its records reach.
inductive ObjectCall where
  | mint (thread : Nat) (session : UInt64)
  | destroyObject (session object : UInt64)
  | destroyObjectIfBound (session object : UInt64) (incarnation lifetime : Option UInt64)
  | findObjects (session : UInt64)
deriving DecidableEq, Repr

inductive CloseTarget where
  | session (number : UInt64)
  | slot (id : UInt64)
deriving DecidableEq, Repr

-- `known` is what a close-all read from the slot index before it took any fence.
structure CloseCall where
  target : CloseTarget
  known : List UInt64
  epoch : UInt64
deriving DecidableEq, Repr

-- Opens and closes at each of their program points; `guards` are the fences owned.
inductive CallState where
  | opening (session slot : UInt64)
  | closing (call : CloseCall)
  | owning (call : CloseCall) (guards : List (UInt64 × FenceId))
  | committing (call : CloseCall) (guards : List (UInt64 × FenceId))
  | forgetting (call : CloseCall)
  | reopening (rv : CkRv) (guards : List (UInt64 × FenceId))
  | finished (rv : CkRv)
deriving DecidableEq, Repr

structure MintedObject where
  session : UInt64
  object : UInt64
  lifetime : UInt64
  id : ObjectId
deriving DecidableEq, Repr

structure CapturedLifetime where
  session : UInt64
  object : UInt64
  lifetime : UInt64
deriving DecidableEq, Repr

structure BoundDestroy where
  session : UInt64
  object : UInt64
  lifetime : Option UInt64
  destroyed : Option ObjectId
deriving DecidableEq, Repr

-- The provider is `sessions` (open sessions and their slots), `objects` (the slot of
-- each object that exists) and `live` (what a number stands for in a session). The last
-- three fields are ghost state: every lifetime drawn by a mint, what captures handed
-- out, and the bound native destroys.
structure ObjectState where
  sessions : UInt64 → Option UInt64
  objects : ObjectId → Option UInt64
  live : UInt64 → UInt64 → Option ObjectId
  nextObject : ObjectId
  sessionSlotMap : Dict UInt64 UInt64
  slotSessions : UInt64 → List UInt64
  fences : FenceState
  lifetimes : ObjectLifetimeTable
  captures : Nat → CaptureStack
  calls : List CallState
  minted : List MintedObject
  captured : List CapturedLifetime
  boundDestroys : List BoundDestroy

def ObjectState.initial : ObjectState :=
  ⟨fun _ => none, fun _ => none, fun _ _ => none, 0, ∅, fun _ => [], FenceState.initial, ObjectLifetimeTable.initial, fun _ => [], [], [], [],
    []⟩

-- What the provider answers to the native call of a step: the numbers of new
-- objects with the other sessions that see them, the numbers a search returns,
-- and the objects that end with a closed session.
structure ProviderAnswer where
  rv : CkRv
  made : List (UInt64 × List UInt64)
  found : List UInt64
  lost : List ObjectId
deriving DecidableEq, Repr

namespace ObjectState

def setCall (state : ObjectState) (k : Nat) (call : CallState) : ObjectState := { state with calls := state.calls.set k call }

def addCall (state : ObjectState) (call : CallState) : ObjectState := { state with calls := state.calls ++ [call] }

def forget (state : ObjectState) (gone : UInt64 → ObjectId → Bool) : ObjectState :=
  { state with live := fun session object => (state.live session object).filter fun id => !gone session id }

end ObjectState

section

variable (state : ObjectState)

def recordObjectLifetimeFresh (thread : Nat) (session object : UInt64) (id : ObjectId) : ObjectState :=
  if object = 0 then state
  else
    let (lifetimes, lifetime, contended) := state.lifetimes.recordFresh session object
    let stack := state.captures thread
    { state with
        lifetimes := lifetimes
        captures := Function.update state.captures thread
          (if contended then stack.poison session object else stack.report session object lifetime)
        minted := state.minted ++ [⟨session, object, lifetime, id⟩] }

-- One new object: its number must be free in every open session that will see it. A
-- call that makes several objects does this for each.
def mintObject (thread : Nat) (session : UInt64) (state : ObjectState) (made : UInt64 × List UInt64) : Option ObjectState :=
  if (session :: made.2).all fun viewer => (state.sessions viewer).isSome && (state.live viewer made.1).isNone then
    let id := state.nextObject
    some (recordObjectLifetimeFresh
      { state with
          nextObject := id + 1
          objects := Function.update state.objects id (state.sessions session)
          live := fun viewer number => if number = made.1 ∧ viewer ∈ session :: made.2 then some id else state.live viewer number }
      thread session made.1 id)
  else none

def nativeDestroy (session object : UInt64) (answer : CkRv) : ObjectState × CkRv × Option ObjectId :=
  if (state.sessions session).isNone then (state, .sessionHandleInvalid, none)
  else
    match state.live session object with
    | none => (state, .objectHandleInvalid, none)
    | some id =>
      if answer = .ok then
        ({ state.forget fun _ other => other == id with objects := Function.update state.objects id none }, .ok, some id)
      else (state, answer, none)

def destroyTracked (session object : UInt64) (answer : CkRv) : ObjectState × CkRv × Option ObjectId :=
  let (next, rv, id) := nativeDestroy state session object answer
  if rv = .ok then ({ next with lifetimes := next.lifetimes.remove object }, rv, id) else (next, rv, id)

def runObjectCall (answer : ProviderAnswer) : ObjectCall → Option (ObjectState × CkRv)
  | .mint thread session =>
    if (state.sessions session).isNone then some (state, .sessionHandleInvalid)
    else if answer.rv = .ok then (answer.made.foldlM (mintObject thread session) state).map fun next => (next, .ok)
    else some (state, answer.rv)
  | .destroyObject session object =>
    let (next, rv, _) := destroyTracked state session object answer.rv
    some (next, rv)
  | .destroyObjectIfBound session object _ lifetime =>
    match lifetime with
    | none => some (state, .objectHandleInvalid)
    | some expected =>
      if (state.lifetimes.entries object).any fun entry => entry.lifetime = expected then
        let (next, rv, id) := destroyTracked state session object answer.rv
        some ({ next with boundDestroys := next.boundDestroys ++ [⟨session, object, lifetime, id⟩] }, rv)
      else some (state, .objectHandleInvalid)
  | .findObjects session =>
    if (state.sessions session).isNone then some (state, .sessionHandleInvalid)
    else if answer.rv = .ok then
      let numbers := answer.found.filter fun object => object ≠ 0
      some ({ state with lifetimes := numbers.foldl (fun table object => table.recordIfAbsent session object) state.lifetimes }, .ok)
    else some (state, answer.rv)

-- A whole entry into a fence: the call that runs under it leaves before the step ends.
def enterFence (fences : FenceState) (session : UInt64) : FenceState × Bool :=
  let (next, id) := fences.entryOrInsert session
  (next, (next.fence id).lifecycle == fenceOpen)

def enterFenceChecked (fences : FenceState) (session expected : UInt64) : Bool :=
  (fences.fences.lookup session).any fun id =>
    (fences.fence id).incarnation == expected && (fences.fence id).lifecycle == fenceOpen

def ObjectCall.enter (fences : FenceState) : ObjectCall → FenceState × Bool
  | .mint _ session | .destroyObject session _ | .findObjects session | .destroyObjectIfBound session _ none _ => enterFence fences session
  | .destroyObjectIfBound session _ (some expected) _ => (fences, enterFenceChecked fences session expected)

-- Close ownership waits for a fence that another close still owns.
def ownFence (owned : FenceState × List (UInt64 × FenceId)) (session : UInt64) : Option (FenceState × List (UInt64 × FenceId)) :=
  let (next, id) := owned.1.entryOrInsert session
  if (next.fence id).lifecycle = fenceOpen then some (next.setLifecycle id fenceClosing, owned.2 ++ [(session, id)]) else none

def commitFence (epoch : UInt64) (fences : FenceState) (guard : UInt64 × FenceId) : FenceState :=
  { fences.setLifecycle guard.2 (terminalEpoch epoch) with fences := fences.fences.erase guard.1 }

def reopenFence (fences : FenceState) (guard : UInt64 × FenceId) : FenceState := fences.setLifecycle guard.2 fenceOpen

def rememberSessionSlot (session slot : UInt64) : ObjectState :=
  { state with
      sessionSlotMap := state.sessionSlotMap.insert session slot
      slotSessions := Function.update state.slotSessions slot (session :: (state.slotSessions slot).erase session) }

def forgetSessionSlot (session : UInt64) : ObjectState :=
  match state.sessionSlotMap.lookup session with
  | none => state
  | some slot =>
    { state with
        sessionSlotMap := state.sessionSlotMap.erase session
        slotSessions := Function.update state.slotSessions slot ((state.slotSessions slot).erase session) }

def forgetSlot (slot : UInt64) : ObjectState :=
  { state with
      sessionSlotMap := (state.slotSessions slot).foldl (fun map session => map.erase session) state.sessionSlotMap
      slotSessions := Function.update state.slotSessions slot [] }

def CloseTarget.closes (target : CloseTarget) (session : UInt64) : Bool :=
  match target with
  | .session number => session == number
  | .slot id => state.sessions session == some id

def CloseTarget.missing : CloseTarget → Bool
  | .session number => (state.sessions number).isNone
  | .slot _ => false

-- The native C_CloseSession or C_CloseAllSessions and the lifetimes it drops: the
-- provider closes every session of the slot, the table only knows those in `known`.
def nativeCloseSessions (target : CloseTarget) (known : List UInt64) (answer : ProviderAnswer) :
    ObjectState × CkRv :=
  if target.missing state then (state, .sessionHandleInvalid)
  else if answer.rv = .ok then
    ({ state.forget fun session id => target.closes state session || answer.lost.contains id with
        objects := fun id => if id ∈ answer.lost then none else state.objects id
        sessions := fun session => if target.closes state session then none else state.sessions session
        lifetimes := known.foldl ObjectLifetimeTable.dropSession state.lifetimes }, .ok)
  else (state, answer.rv)

def CloseTarget.forget : CloseTarget → ObjectState
  | .session number => forgetSessionSlot state number
  | .slot id => forgetSlot state id

-- One step of call `k`. The native close, the lifetimes it drops and its answer are
-- one step; so is each pass over the fences.
def advanceCall (k : Nat) (answer : ProviderAnswer) : CallState → Option ObjectState
  | .opening session slot => some ((rememberSessionSlot state session slot).setCall k (.finished .ok))
  | .closing call =>
    ((call.known.insertionSort (· ≤ ·)).dedup.foldlM ownFence (state.fences, [])).map fun owned =>
      { state with fences := owned.1 }.setCall k (.owning call owned.2)
  | .owning call guards =>
    let done := nativeCloseSessions state call.target call.known answer
    some (done.1.setCall k (if done.2 = .ok then .committing call guards else .reopening done.2 guards))
  | .committing call guards =>
    some ({ state with fences := guards.foldl (commitFence call.epoch) state.fences }.setCall k (.forgetting call))
  | .forgetting call => some ((call.target.forget state).setCall k (.finished .ok))
  | .reopening rv guards => some ({ state with fences := guards.foldl reopenFence state.fences }.setCall k (.finished rv))
  | .finished _ => none

-- `view` is what the provider shows the new session: older objects of its slot, under
-- numbers of its own choice.
inductive ObjectAction where
  | openSession (session slot : UInt64) (view : List (UInt64 × ObjectId))
  | closeSession (session epoch : UInt64)
  | closeAllSessions (slot epoch : UInt64)
  | sessionIncarnation (session : UInt64)
  | call (call : ObjectCall) (answer : ProviderAnswer)
  | beginCapture (thread : Nat) (session : UInt64)
  | readCapture (thread : Nat)
  | dropCapture (thread : Nat)
  | advance (k : Nat) (answer : ProviderAnswer)
deriving DecidableEq, Repr

def ObjectCall.presented (captured : List CapturedLifetime) : ObjectCall → Bool
  | .destroyObjectIfBound session object _ (some lifetime) => captured.contains ⟨session, object, lifetime⟩
  | _ => true

def capturedPairs : CaptureStack → List CapturedLifetime
  | [] => []
  | capture :: _ => capture.pairs.map fun pair => ⟨capture.session, pair.1, pair.2⟩

def openSession (session slot : UInt64) (view : List (UInt64 × ObjectId)) : ObjectState :=
  { state with
      sessions := Function.update state.sessions session (some slot)
      live := Function.update state.live session fun number => (view.find? fun seen => seen.1 == number).map Prod.snd }

def objectStep : ObjectAction → Option ObjectState
  | .openSession session slot view =>
    if (state.sessions session).isNone ∧ ∀ seen ∈ view, state.objects seen.2 = some slot then
      some ((openSession state session slot view).addCall (.opening session slot))
    else none
  | .closeSession session epoch => some (state.addCall (.closing ⟨.session session, [session], epoch⟩))
  | .closeAllSessions slot epoch => some (state.addCall (.closing ⟨.slot slot, state.slotSessions slot, epoch⟩))
  | .sessionIncarnation session => some { state with fences := (state.fences.entryOrInsert session).1 }
  | .call call answer =>
    if call.presented state.captured then
      let (fences, entered) := call.enter state.fences
      if entered then (runObjectCall { state with fences := fences } answer call).map Prod.fst
      else some { state with fences := fences }
    else none
  | .beginCapture thread session =>
    some { state with captures := Function.update state.captures thread (⟨session, []⟩ :: state.captures thread) }
  | .readCapture thread => some { state with captured := state.captured ++ capturedPairs (state.captures thread) }
  | .dropCapture thread => some { state with captures := Function.update state.captures thread (state.captures thread).tail }
  | .advance k answer => state.calls[k]?.bind (advanceCall state k answer)

end

end Pkcs11Proxy.Backend
