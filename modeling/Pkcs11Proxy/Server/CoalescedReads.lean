import Pkcs11Proxy.Server.AttributeReads
import Pkcs11Proxy.Server.ObjectEviction

namespace Pkcs11Proxy.Server

open Lib Pkcs11Proxy.Types

def LogicalClientInstance.invalidateAttributes (context : LogicalClientInstance) (object : VirtualHandle) : LogicalClientInstance :=
  { context with attrCache := dictRetain (fun key => key.1 != object) context.attrCache }

-- `number` is ghost state here and below: successful writes are numbered in the order
-- of their backend calls, and a value carries the number of the write it stems from,
-- zero for a value that was there before the first.
structure NumberedValue where
  value : Bytes
  number : Nat
deriving DecidableEq, Repr

inductive SlotPhase where
  | asked
  | missed
  | fetched (result : Option NumberedValue)
  | ready (result : Option NumberedValue)
deriving DecidableEq, Repr

-- One attribute of a read. `floor` is ghost state: the last write of the attribute that
-- had been answered when the read began.
structure ReadSlot where
  attr : UInt64
  floor : Nat
  phase : SlotPhase
deriving DecidableEq, Repr

structure ReadInFlight where
  client : ClientContextId
  virt : VirtualHandle
  object : BackendHandle
  slots : List ReadSlot
  answered : Bool
deriving DecidableEq, Repr

inductive WritePhase where
  | resolved
  | refused (rv : CkRv)
  | written (number : Nat)
  | invalidated (number : Nat)
  | answered
deriving DecidableEq, Repr

structure WriteInFlight where
  client : ClientContextId
  virt : VirtualHandle
  object : BackendHandle
  template : List (UInt64 × Bytes)
  phase : WritePhase
deriving DecidableEq, Repr

def WriteInFlight.attrs (request : WriteInFlight) : List UInt64 := request.template.map Prod.fst

structure EntryOrigin where
  object : BackendHandle
  number : Nat
deriving DecidableEq, Repr

structure ServedAttribute where
  object : BackendHandle
  attr : UInt64
  floor : Nat
  result : Option NumberedValue
deriving DecidableEq, Repr

-- The provider's objects are `values` and `destroyed`. Ghost state: the number of
-- writes so far, the last write of an attribute, the last one that has been answered,
-- the origins of the cache entries, and what reads returned.
structure CoalesceState where
  contexts : Dict ClientContextId LogicalClientInstance
  values : BackendHandle × UInt64 → Option Bytes
  destroyed : Finset BackendHandle
  reads : List ReadInFlight
  writes : List WriteInFlight
  count : Nat
  lastWrite : BackendHandle × UInt64 → Nat
  acknowledged : BackendHandle × UInt64 → Nat
  origins : Dict (ClientContextId × VirtualHandle × UInt64) EntryOrigin
  served : List ServedAttribute

def startContexts : List (ClientContextId × HandleMap) → Dict ClientContextId LogicalClientInstance
  | [] => ∅
  | (client, handles) :: rest => (startContexts rest).insert client { LogicalClientInstance.new with objectHandles := handles }

def CoalesceState.start (maps : List (ClientContextId × HandleMap)) (values : BackendHandle × UInt64 → Option Bytes) : CoalesceState :=
  ⟨startContexts maps, values, ∅, [], [], 0, fun _ => 0, fun _ => 0, ∅, []⟩

def objectBehind (contexts : Dict ClientContextId LogicalClientInstance) (client : ClientContextId) (virt : VirtualHandle) :
    Option BackendHandle :=
  (contexts.lookup client).bind fun context => context.objectHandles.resolve virt

-- A request on the attributes of one object is several steps: a read looks up each
-- attribute, makes one backend call for what it missed, stores each value and answers; a
-- write makes its backend call, drops cache entries and answers. `withheld` are the
-- attributes the provider gives no value for.
inductive CoalesceAction where
  | startRead (client : ClientContextId) (virt : VirtualHandle) (attrs : List UInt64)
  | lookup (k i : Nat)
  | fetch (k : Nat) (withheld : List UInt64)
  | put (k i : Nat)
  | answerRead (k : Nat)
  | startWrite (client : ClientContextId) (virt : VirtualHandle) (template : List (UInt64 × Bytes))
  | write (k : Nat) (rv : CkRv)
  | invalidate (k : Nat)
  | answerWrite (k : Nat)
  | destroy (client : ClientContextId) (virt : VirtualHandle)
  | evict (client : ClientContextId) (object : BackendHandle)
deriving DecidableEq, Repr

def SlotPhase.result : SlotPhase → Option NumberedValue
  | .fetched result => result
  | .ready result => result
  | _ => none

def ReadSlot.isAsked (slot : ReadSlot) : Bool := slot.phase = .asked

def ReadSlot.isReady (slot : ReadSlot) : Bool := slot.phase = .ready slot.phase.result

section Steps

variable (state : CoalesceState)

def lookupSlot (request : ReadInFlight) (slot : ReadSlot) : ReadSlot :=
  match cacheHit (state.contexts.lookup request.client) request.virt slot.attr with
  | some cached =>
    let origin := state.origins.lookup (request.client, request.virt, slot.attr)
    { slot with phase := .ready (some ⟨cached.value, (origin.map EntryOrigin.number).getD 0⟩) }
  | none => { slot with phase := .missed }

def providerValue (object : BackendHandle) (attr : UInt64) (withheld : List UInt64) : Option NumberedValue :=
  if attr ∈ withheld then none
  else (state.values (object, attr)).map fun value => ⟨value, state.lastWrite (object, attr)⟩

def fetchSlot (object : BackendHandle) (withheld : List UInt64) (slot : ReadSlot) : ReadSlot :=
  if slot.phase = .missed then { slot with phase := .fetched (providerValue state object slot.attr withheld) } else slot

def publish (request : ReadInFlight) (attr : UInt64) (result : Option NumberedValue) : CoalesceState :=
  match result, state.contexts.lookup request.client with
  | some found, some context =>
    if isValueBearingSecret attr then state
    else
      { state with
          contexts := state.contexts.insert request.client (context.putAttribute request.virt attr ⟨found.value, CkRv.ok.value⟩)
          origins := state.origins.insert (request.client, request.virt, attr) ⟨request.object, found.number⟩ }
  | _, _ => state

def writeTemplate (object : BackendHandle) (template : List (UInt64 × Bytes)) : BackendHandle × UInt64 → Option Bytes :=
  template.foldl (fun values entry => Function.update values (object, entry.1) (some entry.2)) state.values

def performWrite (request : WriteInFlight) : CoalesceState :=
  { state with
      values := writeTemplate state request.object request.template
      count := state.count + 1
      lastWrite := fun key => if key.1 = request.object ∧ key.2 ∈ request.attrs then state.count + 1 else state.lastWrite key }

def acknowledge (request : WriteInFlight) (number : Nat) : CoalesceState :=
  { state with
      acknowledged := fun key =>
        if key.1 = request.object ∧ key.2 ∈ request.attrs then max number (state.acknowledged key) else state.acknowledged key }

def invalidateOwn (request : WriteInFlight) : CoalesceState :=
  match state.contexts.lookup request.client with
  | some context => { state with contexts := state.contexts.insert request.client (context.invalidateAttributes request.virt) }
  | none => state

def setRead (k : Nat) (request : ReadInFlight) : CoalesceState := { state with reads := state.reads.set k request }

def setWrite (k : Nat) (request : WriteInFlight) (phase : WritePhase) : CoalesceState :=
  { state with writes := state.writes.set k { request with phase := phase } }

def recordServed (request : ReadInFlight) : CoalesceState :=
  { state with served := state.served ++ request.slots.map fun slot => ⟨request.object, slot.attr, slot.floor, slot.phase.result⟩ }

def newRead (client : ClientContextId) (virt : VirtualHandle) (object : BackendHandle) (attrs : List UInt64) : ReadInFlight :=
  ⟨client, virt, object, attrs.map fun attr => ⟨attr, state.acknowledged (object, attr), .asked⟩, false⟩

def stepLookup (k i : Nat) : Option CoalesceState :=
  state.reads[k]?.bind fun request => request.slots[i]?.bind fun slot =>
    if slot.phase = .asked then some (setRead state k { request with slots := request.slots.set i (lookupSlot state request slot) })
    else none

def stepPut (k i : Nat) : Option CoalesceState :=
  state.reads[k]?.bind fun request => request.slots[i]?.bind fun slot =>
    if slot.phase = .fetched slot.phase.result then
      some (setRead (publish state request slot.attr slot.phase.result) k
        { request with slots := request.slots.set i { slot with phase := .ready slot.phase.result } })
    else none

def stepWrite (k : Nat) (rv : CkRv) : Option CoalesceState :=
  state.writes[k]?.bind fun request =>
    if request.phase ≠ .resolved then none
    else if rv ≠ .ok then some (setWrite state k request (.refused rv))
    else if request.object ∈ state.destroyed then none
    else some (setWrite (performWrite state request) k request (.written (state.count + 1)))

def stepInvalidate (k : Nat) : Option CoalesceState :=
  state.writes[k]?.bind fun request =>
    match request.phase with
    | .written number => some (setWrite (invalidateOwn state request) k request (.invalidated number))
    | _ => none

def stepAnswerWrite (k : Nat) : Option CoalesceState :=
  state.writes[k]?.bind fun request =>
    match request.phase with
    | .refused _ => some (setWrite state k request .answered)
    | .invalidated number => some (setWrite (acknowledge state request number) k request .answered)
    | _ => none

def coalesceStep : CoalesceAction → Option CoalesceState
  | .startRead client virt attrs =>
    (objectBehind state.contexts client virt).map fun object =>
      { state with reads := state.reads ++ [newRead state client virt object attrs] }
  | .lookup k i => stepLookup state k i
  | .fetch k withheld =>
    state.reads[k]?.bind fun request =>
      if request.slots.any ReadSlot.isAsked then none
      else some (setRead state k { request with slots := request.slots.map (fetchSlot state request.object withheld) })
  | .put k i => stepPut state k i
  | .answerRead k =>
    state.reads[k]?.bind fun request =>
      if request.slots.all ReadSlot.isReady && !request.answered then
        some (setRead (recordServed state request) k { request with answered := true })
      else none
  | .startWrite client virt template =>
    (objectBehind state.contexts client virt).map fun object =>
      { state with writes := state.writes ++ [⟨client, virt, object, template, .resolved⟩] }
  | .write k rv => stepWrite state k rv
  | .invalidate k => stepInvalidate state k
  | .answerWrite k => stepAnswerWrite state k
  | .destroy client virt =>
    (objectBehind state.contexts client virt).map fun object =>
      { state with
          values := fun key => if key.1 = object then none else state.values key
          destroyed := insert object state.destroyed }
  | .evict client object =>
    if object ∈ state.destroyed then
      (state.contexts.lookup client).map fun context =>
        { state with contexts := state.contexts.insert client (context.evictBackendObject object) }
    else none

end Steps

def WritePhase.number : WritePhase → Option Nat
  | .written number => some number
  | .invalidated number => some number
  | _ => none

def WritePhase.dropped : WritePhase → Option Nat
  | .invalidated number => some number
  | _ => none

def FreshReads (state : CoalesceState) : Prop :=
  ∀ given ∈ state.served, ∀ found ∈ given.result, given.floor ≤ found.number

def OthersCurrent (state : CoalesceState) (request : WriteInFlight) (number : Nat) : Prop :=
  ∀ client ∈ state.contexts.keys, ∀ context ∈ state.contexts.lookup client, ∀ key ∈ context.attrCache.keys,
    ∀ origin ∈ state.origins.lookup (client, key),
      origin.object = request.object → key.2 ∈ request.attrs → (client, key.1) ≠ (request.client, request.virt) → number ≤ origin.number

def PutCurrent (state : CoalesceState) (request : ReadInFlight) (attr : UInt64) (number : Nat) : Prop :=
  state.acknowledged (request.object, attr) ≤ number ∧ ∀ write ∈ state.writes,
    (write.client, write.virt) = (request.client, request.virt) → attr ∈ write.attrs → ∀ done ∈ write.phase.dropped, done ≤ number

-- A read stores no value older than an answered write or than one for which the handle's
-- entries have already been dropped, and a write is answered only when nothing older is
-- left in the other caches.
def CoalesceSafe (state : CoalesceState) : CoalesceAction → Prop
  | .put k i => ∀ request ∈ state.reads[k]?, ∀ slot ∈ request.slots[i]?, ∀ found ∈ slot.phase.result,
      isValueBearingSecret slot.attr = false → PutCurrent state request slot.attr found.number
  | .answerWrite k => ∀ request ∈ state.writes[k]?, ∀ number ∈ request.phase.number, OthersCurrent state request number
  | _ => True

instance decidableOthersCurrent (state : CoalesceState) (request : WriteInFlight) (number : Nat) :
    Decidable (OthersCurrent state request number) :=
  inferInstanceAs (Decidable (∀ client ∈ state.contexts.keys, _))

instance decidablePutCurrent (state : CoalesceState) (request : ReadInFlight) (attr : UInt64) (number : Nat) :
    Decidable (PutCurrent state request attr number) :=
  inferInstanceAs (Decidable (_ ∧ ∀ write ∈ state.writes, _))

instance decidableCoalesceSafe (state : CoalesceState) : (action : CoalesceAction) → Decidable (CoalesceSafe state action)
  | .put _ _ => inferInstanceAs (Decidable (∀ request ∈ (_ : Option ReadInFlight), _))
  | .answerWrite _ => inferInstanceAs (Decidable (∀ request ∈ (_ : Option WriteInFlight), _))
  | .startRead .. | .lookup .. | .fetch .. | .answerRead _ | .startWrite .. | .write .. | .invalidate _ | .destroy .. | .evict .. =>
    .isTrue trivial

end Pkcs11Proxy.Server
