import Mathlib.Data.List.Sort
import Pkcs11Proxy.Lib.Dict
import Pkcs11Proxy.Lib.Exec

namespace Pkcs11Proxy.Backend

open Lib

-- Fence lifecycle words: u64::MAX accepts entrants, u64::MAX - 1 is a close in
-- progress, and every other value is the epoch of a committed close.
def fenceOpen : UInt64 := 0xFFFFFFFFFFFFFFFF
def fenceClosing : UInt64 := fenceOpen - 1

abbrev FenceId := Nat

-- `key` is ghost state: the session number the object was created for. The
-- reader count is unbounded here; wrapping it takes 2^64 simultaneous readers.
structure SessionFence where
  readers : Nat
  lifecycle : UInt64
  incarnation : UInt64
  key : UInt64
deriving DecidableEq, Repr

inductive FenceMode where
  | read
  | write
deriving DecidableEq, Repr

structure SessionFenceGuard where
  fence : FenceId
  mode : FenceMode
  session : UInt64
  epoch : UInt64
  settled : Bool
deriving DecidableEq, Repr

-- One run of the marking loop shared by `enter_write` (`single`) and
-- `enter_write_all`: the sessions still to visit and the fences marked so far.
structure WriteJob where
  single : Bool
  epoch : UInt64
  todo : List UInt64
  marked : List (UInt64 × FenceId)
deriving DecidableEq, Repr

-- A call at each of its program points, or the guard it returned. `expected` is
-- the incarnation presented to `enter_checked` and none for `enter`.
inductive Slot where
  | fetched (guard : SessionFenceGuard) (expected : Option UInt64)
  | admitted (guard : SessionFenceGuard) (expected : Option UInt64)
  | counted (guard : SessionFenceGuard) (expected : Option UInt64)
  | refused (guard : SessionFenceGuard)
  | seeking (job : WriteJob)
  | marking (job : WriteJob) (session : UInt64) (fence : FenceId)
  | swapping (job : WriteJob) (session : UInt64) (fence : FenceId)
  | draining (pending : List (UInt64 × FenceId)) (job : WriteJob)
  | held (guard : SessionFenceGuard) (expected : Option UInt64)
  | committing (guard : SessionFenceGuard)
  | sessionHandleInvalid
  | finished
deriving DecidableEq, Repr

-- `committed` is ghost state: the incarnations whose `commit_close` returned.
structure FenceState where
  nextIncarnation : UInt64
  heap : List SessionFence
  fences : Dict UInt64 FenceId
  slots : List Slot
  committed : List UInt64
deriving DecidableEq

def FenceState.initial : FenceState := ⟨1, [], ∅, [], []⟩

def SessionFence.new (incarnation key : UInt64) : SessionFence := ⟨0, fenceOpen, incarnation, key⟩

section

variable (state : FenceState)

def FenceState.fence (id : FenceId) : SessionFence := state.heap.getD id (SessionFence.new 0 0)

def FenceState.setFence (id : FenceId) (fence : SessionFence) : FenceState :=
  { state with heap := state.heap.set id fence }

def FenceState.setLifecycle (id : FenceId) (word : UInt64) : FenceState :=
  state.setFence id { state.fence id with lifecycle := word }

def FenceState.setReaders (id : FenceId) (count : Nat) : FenceState :=
  state.setFence id { state.fence id with readers := count }

def FenceState.setSlot (i : Nat) (slot : Slot) : FenceState :=
  { state with slots := state.slots.set i slot }

def FenceState.addSlot (slot : Slot) : FenceState :=
  { state with slots := state.slots ++ [slot] }

def FenceState.entryOrInsert (session : UInt64) : FenceState × FenceId :=
  match state.fences.lookup session with
  | some id => (state, id)
  | none =>
    ({ state with
        nextIncarnation := state.nextIncarnation + 1
        heap := state.heap ++ [SessionFence.new state.nextIncarnation session]
        fences := state.fences.insert session state.heap.length }, state.heap.length)

def SessionFenceGuard.read (fence : FenceId) (session epoch : UInt64) : SessionFenceGuard :=
  ⟨fence, .read, session, epoch, true⟩

def SessionFenceGuard.write (fence : FenceId) (session epoch : UInt64) : SessionFenceGuard :=
  ⟨fence, .write, session, epoch, false⟩

def SessionFenceGuard.owns (guard : SessionFenceGuard) : Bool := guard.mode == .write && !guard.settled

def terminalEpoch (epoch : UInt64) : UInt64 := min epoch (fenceClosing - 1)

def enter (session epoch : UInt64) : FenceState :=
  let (next, id) := state.entryOrInsert session
  next.addSlot (.fetched (.read id session epoch) none)

def enterChecked (session epoch expected : UInt64) : FenceState :=
  match state.fences.lookup session with
  | none => state.addSlot .sessionHandleInvalid
  | some id =>
    if (state.fence id).incarnation ≠ expected then state.addSlot .sessionHandleInvalid
    else state.addSlot (.fetched (.read id session epoch) (some expected))

def enterWrite (session epoch : UInt64) : FenceState :=
  let (next, id) := state.entryOrInsert session
  next.addSlot (.marking ⟨true, epoch, [], []⟩ session id)

-- Ascending and without duplicates: a second pass over one id would wait for itself.
def enterWriteAll (sessions : List UInt64) (epoch : UInt64) : FenceState :=
  state.addSlot (.seeking ⟨false, epoch, (sessions.mergeSort fun a b => a ≤ b).dedup, []⟩)

def WriteJob.guards (job : WriteJob) : List Slot :=
  job.marked.map fun entry => .held (.write entry.2 entry.1 job.epoch) none

-- The next atomic step of the call in slot `i`; a spinning wait steps to itself.
def advanceSlot (i : Nat) : Slot → Option FenceState
  | .fetched guard expected =>
    if (state.fence guard.fence).lifecycle ≠ fenceOpen then some (state.setSlot i .sessionHandleInvalid)
    else some (state.setSlot i (.admitted guard expected))
  | .admitted guard expected =>
    some ((state.setReaders guard.fence ((state.fence guard.fence).readers + 1)).setSlot i (.counted guard expected))
  | .counted guard expected =>
    -- A close that marked between the load and the increment still wins.
    if (state.fence guard.fence).lifecycle ≠ fenceOpen ∨
        expected.any (fun presented => (state.fence guard.fence).incarnation ≠ presented) then
      some (state.setSlot i (.refused guard))
    else some (state.setSlot i (.held guard expected))
  | .refused guard =>
    some ((state.setReaders guard.fence ((state.fence guard.fence).readers - 1)).setSlot i .sessionHandleInvalid)
  | .seeking job =>
    match job.todo with
    | [] => some (state.setSlot i (.draining job.marked job))
    | session :: rest =>
      let (next, id) := state.entryOrInsert session
      some (next.setSlot i (.marking { job with todo := rest } session id))
  | .marking job session id =>
    if (state.fence id).lifecycle = fenceOpen then some (state.setSlot i (.swapping job session id))
    else if (state.fence id).lifecycle = fenceClosing then some state
    else if job.single then some (state.setSlot i .sessionHandleInvalid)
    else some (state.setSlot i (.seeking job))
  | .swapping job session id =>
    if (state.fence id).lifecycle = fenceOpen then
      let marked := { job with marked := job.marked ++ [(session, id)] }
      let next := state.setLifecycle id fenceClosing
      if job.single then some (next.setSlot i (.draining marked.marked marked))
      else some (next.setSlot i (.seeking marked))
    else some (state.setSlot i (.marking job session id))
  | .draining pending job =>
    match pending with
    | [] => some { state with slots := state.slots.set i .finished ++ job.guards }
    | (_, id) :: rest =>
      if (state.fence id).readers ≠ 0 then some state else some (state.setSlot i (.draining rest job))
  | .committing guard =>
    some { state with
      fences := state.fences.erase guard.session
      slots := state.slots.set i (.held { guard with settled := true } none)
      committed := (state.fence guard.fence).incarnation :: state.committed }
  | _ => none

-- `commit_close` up to its store; its table removal is the slot's next step. The
-- two settlements are defined on an unsettled write guard, as the source asserts.
def commitCloseSlot (i : Nat) : Slot → Option FenceState
  | .held guard _ =>
    if guard.owns then
      some ((state.setLifecycle guard.fence (terminalEpoch guard.epoch)).setSlot i (.committing guard))
    else none
  | _ => none

def reopenSlot (i : Nat) : Slot → Option FenceState
  | .held guard _ =>
    if guard.owns then
      some ((state.setLifecycle guard.fence fenceOpen).setSlot i (.held { guard with settled := true } none))
    else none
  | _ => none

def dropSlot (i : Nat) : Slot → Option FenceState
  | .held guard _ =>
    match guard.mode with
    | .read => some ((state.setReaders guard.fence ((state.fence guard.fence).readers - 1)).setSlot i .finished)
    | .write =>
      if guard.settled then some (state.setSlot i .finished)
      else some ((state.setLifecycle guard.fence fenceOpen).setSlot i .finished)
  | _ => none

inductive FenceAction where
  | enter (session epoch : UInt64)
  | enterChecked (session epoch expected : UInt64)
  | enterWrite (session epoch : UInt64)
  | enterWriteAll (sessions : List UInt64) (epoch : UInt64)
  | advance (i : Nat)
  | commitClose (i : Nat)
  | reopen (i : Nat)
  | drop (i : Nat)
deriving DecidableEq, Repr

def fenceStep : FenceAction → Option FenceState
  | .enter session epoch => some (enter state session epoch)
  | .enterChecked session epoch expected => some (enterChecked state session epoch expected)
  | .enterWrite session epoch => some (enterWrite state session epoch)
  | .enterWriteAll sessions epoch => some (enterWriteAll state sessions epoch)
  | .advance i => state.slots[i]?.bind (advanceSlot state i)
  | .commitClose i => state.slots[i]?.bind (commitCloseSlot state i)
  | .reopen i => state.slots[i]?.bind (reopenSlot state i)
  | .drop i => state.slots[i]?.bind (dropSlot state i)

end

def Slot.readsFence (slot : Slot) (id : FenceId) : Bool :=
  match slot with
  | .held guard _ => guard.mode == .read && guard.fence == id
  | _ => false

def Slot.ownsFence (slot : Slot) (id : FenceId) : Bool :=
  match slot with
  | .held guard _ => guard.owns && guard.fence == id
  | .committing guard => guard.fence == id
  | _ => false

end Pkcs11Proxy.Backend
