import Pkcs11Proxy.Server.ObjectEviction

namespace Pkcs11Proxy.Server

open Lib Pkcs11Proxy.Types

inductive MintCall where
  | create (isToken isPrivate : Bool)
  | copy (tokenOverride : Option Bool) (isPrivate : Bool)
deriving DecidableEq, Repr

namespace MintCall

def permits : MintCall → Bool → Bool
  | .create declared _, isToken => isToken == declared
  | .copy tokenOverride _, isToken => tokenOverride.all (· == isToken)

-- How the handler classifies the new object: a copy by the provider's answer, then by
-- its template, then as a session object.
def classifiesToken : MintCall → Option Bool → Bool
  | .create declared _, _ => declared
  | .copy tokenOverride _, observed => (observed.or tokenOverride).getD false

def isPrivate : MintCall → Bool
  | .create _ isPrivate => isPrivate
  | .copy _ isPrivate => isPrivate

end MintCall

-- `identity` is ghost state: it tells apart the objects one number has named. A session
-- object belongs to the session that minted it.
structure NativeObject where
  identity : Nat
  owner : Option BackendHandle
deriving DecidableEq, Repr

-- A minting request past its session lookup. The provider's answer is held until the
-- registration section runs.
inductive MintPhase where
  | resolved (session : BackendHandle)
  | minted (object : BackendHandle) (identity : Nat) (isToken : Bool)
  | registered (object : BackendHandle) (identity : Nat) (isToken : Bool) (virt : VirtualHandle)
  | unadopted
deriving DecidableEq, Repr

structure MintRequest where
  context : Nat
  session : VirtualHandle
  call : MintCall
  phase : MintPhase
deriving DecidableEq, Repr

-- The broadcast visits one context at a time.
inductive DestroyRequest where
  | resolved (object : BackendHandle)
  | sweeping (object : BackendHandle) (visited : List Nat)
deriving DecidableEq, Repr

structure ObjectSystem where
  contexts : List (Option CloseSystem)
  objects : Dict BackendHandle NativeObject
  minted : Nat
  mints : List MintRequest
  destroys : List DestroyRequest

inductive ObjectAction where
  | newContext
  | endContext (i : Nat)
  | session (i : Nat) (action : CloseAction)
  | createObject (i : Nat) (session : VirtualHandle) (isToken isPrivate : Bool)
  | copyObject (i : Nat) (session source : VirtualHandle) (tokenOverride : Option Bool) (isPrivate : Bool)
  | nativeMint (k : Nat) (object : BackendHandle) (isToken : Bool)
  | registerObject (k : Nat) (observed : Option Bool)
  | findObject (i : Nat) (object : BackendHandle)
  | destroyObject (i : Nat) (session object : VirtualHandle)
  | nativeDestroy (k : Nat)
  | evictIn (k i : Nat)
  | vanish (object : BackendHandle)
deriving DecidableEq, Repr

def CloseSystem.nativelyClosed (client : CloseSystem) : CloseAction → Option BackendHandle
  | .nativeClose k .ok => client.transitions[k]?.map CloseSessionTransition.backendHandle
  | _ => none

namespace ObjectSystem

def new : ObjectSystem := ⟨[], ∅, 0, [], []⟩

section Steps

variable (system : ObjectSystem)

def contextAt (i : Nat) : Option CloseSystem := system.contexts[i]?.join

def setContext (i : Nat) (client : CloseSystem) : ObjectSystem := { system with contexts := system.contexts.set i (some client) }

def isLive (object : BackendHandle) : Bool := (system.objects.lookup object).isSome

def withoutOwnedBy (closed : Option BackendHandle) : ObjectSystem :=
  { system with
      objects := dictRetain (fun number => (system.objects.lookup number).all fun object => object.owner.isNone || object.owner != closed)
        system.objects }

def sessionAction (i : Nat) (client : CloseSystem) (action : CloseAction) : Option ObjectSystem :=
  (closeStep client action).map fun next => (system.setContext i next).withoutOwnedBy (client.nativelyClosed action)

def beginMint (i : Nat) (client : CloseSystem) (session : VirtualHandle) (call : MintCall) : Option ObjectSystem :=
  (client.context.sessionHandles.resolve session).map fun backend =>
    { system with mints := system.mints ++ [⟨i, session, call, .resolved backend⟩] }

def canMintOn (i : Nat) (session : BackendHandle) : Bool := (system.contextAt i).all fun client => decide (session ∈ client.nativeSessions)

def nativeMint (k : Nat) (mint : MintRequest) (session object : BackendHandle) (isToken : Bool) : ObjectSystem :=
  { system with
      objects := system.objects.insert object ⟨system.minted, if isToken then none else some session⟩
      minted := system.minted + 1
      mints := system.mints.set k { mint with phase := .minted object system.minted isToken } }

def registerObject (k : Nat) (mint : MintRequest) (object : BackendHandle) (identity : Nat) (isToken : Bool) (observed : Option Bool) :
    ObjectSystem :=
  match system.contextAt mint.context with
  | some client =>
    let (context, virt) := client.context.registerSessionObjectHandle mint.session object (mint.call.classifiesToken observed)
      (some mint.call.isPrivate)
    { system.setContext mint.context { client with context := context } with
        mints := system.mints.set k { mint with phase := .registered object identity isToken virt } }
  | none => { system with mints := system.mints.set k { mint with phase := .unadopted } }

def evictIn (k i : Nat) (client : CloseSystem) (object : BackendHandle) (visited : List Nat) : ObjectSystem :=
  { system.setContext i { client with context := client.context.evictBackendObject object } with
      destroys := system.destroys.set k (.sweeping object (i :: visited)) }

end Steps

end ObjectSystem

-- `vanish` is any other end of an object at the provider.
def objectStep (system : ObjectSystem) : ObjectAction → Option ObjectSystem
  | .newContext => some { system with contexts := system.contexts ++ [some CloseSystem.new] }
  | .endContext i => (system.contextAt i).map fun _ => { system with contexts := system.contexts.set i none }
  | .session i action => (system.contextAt i).bind fun client => system.sessionAction i client action
  | .createObject i session isToken isPrivate =>
    (system.contextAt i).bind fun client => system.beginMint i client session (.create isToken isPrivate)
  | .copyObject i session source tokenOverride isPrivate =>
    (system.contextAt i).bind fun client =>
      if (client.context.objectHandles.resolve source).isSome then system.beginMint i client session (.copy tokenOverride isPrivate)
      else none
  | .nativeMint k object isToken =>
    system.mints[k]?.bind fun mint =>
      match mint.phase with
      | .resolved session =>
        if mint.call.permits isToken ∧ system.isLive object = false ∧ system.canMintOn mint.context session then
          some (system.nativeMint k mint session object isToken)
        else none
      | _ => none
  | .registerObject k observed =>
    system.mints[k]?.bind fun mint =>
      match mint.phase with
      | .minted object identity isToken =>
        if observed.all (· == isToken) then some (system.registerObject k mint object identity isToken observed) else none
      | _ => none
  | .findObject i object =>
    (system.contextAt i).bind fun client =>
      if system.isLive object then
        some (system.setContext i
          { client with
              context := { client.context with objectHandles := (client.context.objectHandles.insert object).1 } })
      else none
  | .destroyObject i session object =>
    (system.contextAt i).bind fun client =>
      if (client.context.sessionHandles.resolve session).isSome then
        (client.context.objectHandles.resolve object).map fun backend =>
          { system with destroys := system.destroys ++ [.resolved backend] }
      else none
  | .nativeDestroy k =>
    system.destroys[k]?.bind fun
      | .resolved object =>
        if system.isLive object then
          some { system with
            objects := system.objects.erase object
            destroys := system.destroys.set k (.sweeping object []) }
        else none
      | .sweeping _ _ => none
  | .evictIn k i =>
    system.destroys[k]?.bind fun
      | .sweeping object visited =>
        if i ∈ visited then none else (system.contextAt i).map fun client => system.evictIn k i client object visited
      | .resolved _ => none
  | .vanish object => if system.isLive object then some { system with objects := system.objects.erase object } else none

namespace ObjectSystem

theorem context_placed (system : ObjectSystem) (i : Nat) (client : CloseSystem) (at_ : system.contextAt i = some client) :
    i < system.contexts.length := by
  rw [contextAt, Option.join_eq_some_iff] at at_
  exact (List.getElem?_eq_some_iff.mp at_).1

theorem context_set (system : ObjectSystem) (i : Nat) (before client : CloseSystem) (at_ : system.contextAt i = some before) (query : Nat) :
    (system.setContext i client).contextAt query = if query = i then some client else system.contextAt query := by
  have inside := system.context_placed i before at_
  rw [contextAt, setContext, List.getElem?_set]
  by_cases same : query = i
  · rw [if_pos same.symm, if_pos inside, if_pos same]
    rfl
  · rw [if_neg (Ne.symm same), if_neg same]
    rfl

theorem context_ended (system : ObjectSystem) (i query : Nat) (client : CloseSystem)
    (at_ : contextAt { system with contexts := system.contexts.set i none } query = some client) : system.contextAt query = some client := by
  rw [contextAt, Option.join_eq_some_iff, List.getElem?_set] at at_
  split at at_
  · split at at_
    · cases at_
    · cases at_
  · exact Option.join_eq_some_iff.mpr at_

theorem context_added (system : ObjectSystem) (query : Nat) (inside : query < system.contexts.length) :
    contextAt { system with contexts := system.contexts ++ [some CloseSystem.new] } query = system.contextAt query := by
  rw [contextAt, List.getElem?_append_left inside]
  rfl

def hasObjectRoom (system : ObjectSystem) (i : Nat) : Bool :=
  (system.contextAt i).all fun client => decide (client.context.objectHandles.nextId.toNat + 1 < 2 ^ 64)

end ObjectSystem

structure ContextsMove (moves : Nat → CloseSystem → CloseSystem → Prop) (system next : ObjectSystem) : Prop where
  length : system.contexts.length ≤ next.contexts.length
  fresh : ∀ i after, next.contextAt i = some after → system.contexts.length ≤ i → after = CloseSystem.new
  clients : ∀ i after, next.contextAt i = some after → i < system.contexts.length →
    ∃ client, system.contextAt i = some client ∧ moves i client after

section Moves

variable {moves : Nat → CloseSystem → CloseSystem → Prop} {system : ObjectSystem} {next : ObjectSystem}
variable (still : ∀ i client, system.contextAt i = some client → moves i client client)

include still

theorem contexts_move_same (contexts : next.contexts = system.contexts) : ContextsMove moves system next where
  length := Nat.le_of_eq (congrArg List.length contexts.symm)
  fresh i after at_ beyond := by
    rw [ObjectSystem.contextAt, contexts] at at_
    exact absurd (system.context_placed i after at_) (Nat.not_lt.mpr beyond)
  clients i after at_ _ := by
    rw [ObjectSystem.contextAt, contexts] at at_
    exact ⟨after, at_, still i after at_⟩

theorem contexts_move_client {i : Nat} {client : CloseSystem} (after : CloseSystem) (at_ : system.contextAt i = some client)
    (contexts : next.contexts = (system.setContext i after).contexts) (moved : moves i client after) : ContextsMove moves system next := by
  have placed : ∀ j, next.contextAt j = if j = i then some after else system.contextAt j := fun j => by
    rw [← system.context_set i client after at_, ObjectSystem.contextAt, contexts]
    rfl
  refine ⟨?_, fun j other held beyond => ?_, fun j other held _ => ?_⟩
  · rw [contexts, ObjectSystem.setContext, List.length_set]
  · rw [placed] at held
    split at held
    · rename_i same
      rw [same] at beyond
      exact absurd (system.context_placed i client at_) (Nat.not_lt.mpr beyond)
    · exact absurd (system.context_placed j other held) (Nat.not_lt.mpr beyond)
  · rw [placed] at held
    split at held
    · rename_i same
      cases held
      rw [same]
      exact ⟨client, at_, moved⟩
    · exact ⟨other, held, still j other held⟩

theorem contexts_move_ended {i : Nat} : ContextsMove moves system { system with contexts := system.contexts.set i none } where
  length := Nat.le_of_eq List.length_set.symm
  fresh j after at_ beyond :=
    absurd (system.context_placed j after (system.context_ended i j after at_)) (Nat.not_lt.mpr beyond)
  clients j after at_ _ := ⟨after, system.context_ended i j after at_, still j after (system.context_ended i j after at_)⟩

theorem contexts_move_added : ContextsMove moves system { system with contexts := system.contexts ++ [some CloseSystem.new] } where
  length := by
    rw [List.length_append]
    exact Nat.le_add_right _ _
  fresh j after at_ beyond := by
    rw [ObjectSystem.contextAt, Option.join_eq_some_iff, List.getElem?_append_right beyond] at at_
    exact Option.some.inj (List.mem_singleton.mp (List.mem_of_getElem? at_))
  clients j after at_ inside := by
    rw [system.context_added j inside] at at_
    exact ⟨after, at_, still j after at_⟩

end Moves

end Pkcs11Proxy.Server
