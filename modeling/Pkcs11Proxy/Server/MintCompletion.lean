import Pkcs11Proxy.Lib.Exec
import Pkcs11Proxy.Server.HandleMap
import Pkcs11Proxy.Types.CkRv

namespace Pkcs11Proxy.Server

open Lib Pkcs11Proxy.Types

class LateMintSettlement (P : Type) where
  isEmpty : P → Bool
  bindIncarnation : P → Option UInt64 → P

-- A late session is closed under its own handle: nothing to bind.
instance : LateMintSettlement BackendHandle where
  isEmpty _ := false
  bindIncarnation handle _ := handle

structure LateMintedObjects where
  session : BackendHandle
  handles : List BackendHandle
  lifetimes : List (Option UInt64)
  incarnation : Option UInt64
  distinct : handles.Nodup
  nonzero : ∀ handle ∈ handles, handle.raw ≠ 0
  parallel : lifetimes.length = handles.length
deriving DecidableEq

namespace LateMintedObjects

def keep (kept : List BackendHandle) (handle : BackendHandle) : List BackendHandle :=
  if handle.raw ≠ 0 ∧ handle ∉ kept then kept ++ [handle] else kept

theorem keep_kept {kept : List BackendHandle} {handle : BackendHandle} (distinct : kept.Nodup) (nonzero : ∀ other ∈ kept, other.raw ≠ 0) :
    (keep kept handle).Nodup ∧ (∀ other ∈ keep kept handle, other.raw ≠ 0) ∧
      ∀ query, query ∈ keep kept handle ↔ query ∈ kept ∨ query = handle ∧ handle.raw ≠ 0 := by
  rw [keep]
  split
  · rename_i fresh
    refine ⟨List.nodup_append.mpr ⟨distinct, List.nodup_singleton _, ?_⟩, ?_, ?_⟩
    · rintro other member new added rfl
      rw [List.mem_singleton.mp added] at member
      exact fresh.2 member
    · intro other member
      rcases List.mem_append.mp member with old | new
      · exact nonzero other old
      · rw [List.mem_singleton.mp new]
        exact fresh.1
    · intro query
      rw [List.mem_append, List.mem_singleton, and_iff_left fresh.1]
  · rename_i stale
    refine ⟨distinct, nonzero, fun query => ⟨.inl, ?_⟩⟩
    rintro (old | ⟨rfl, real⟩)
    · exact old
    · exact not_not.mp fun missing => stale ⟨real, missing⟩

theorem keep_all (minted kept : List BackendHandle) (distinct : kept.Nodup) (nonzero : ∀ other ∈ kept, other.raw ≠ 0) :
    (minted.foldl keep kept).Nodup ∧ (∀ other ∈ minted.foldl keep kept, other.raw ≠ 0) ∧
      ∀ query, query ∈ minted.foldl keep kept ↔ query ∈ kept ∨ query ∈ minted ∧ query.raw ≠ 0 := by
  induction minted generalizing kept with
  | nil => exact ⟨distinct, nonzero, fun query => by simp⟩
  | cons handle rest ih =>
    obtain ⟨keptDistinct, keptNonzero, keptIff⟩ := keep_kept distinct nonzero
    obtain ⟨allDistinct, allNonzero, allIff⟩ := ih (keep kept handle) keptDistinct keptNonzero
    refine ⟨allDistinct, allNonzero, fun query => ?_⟩
    rw [List.foldl_cons, allIff, keptIff, List.mem_cons, or_assoc]
    refine or_congr_right ⟨?_, ?_⟩
    · rintro (⟨rfl, real⟩ | ⟨member, real⟩)
      · exact ⟨.inl rfl, real⟩
      · exact ⟨.inr member, real⟩
    · rintro ⟨rfl | member, real⟩
      · exact .inl ⟨rfl, real⟩
      · exact .inr ⟨member, real⟩

def keptHandles (minted : List BackendHandle) : List BackendHandle := minted.foldl keep []

theorem kept_handles {minted : List BackendHandle} :
    (keptHandles minted).Nodup ∧ (∀ other ∈ keptHandles minted, other.raw ≠ 0) ∧
      ∀ query, query ∈ keptHandles minted ↔ query ∈ minted ∧ query.raw ≠ 0 := by
  obtain ⟨distinct, nonzero, mem⟩ := keep_all minted [] List.nodup_nil fun _ member => nomatch member
  exact ⟨distinct, nonzero, fun query => by rw [keptHandles, mem, or_iff_right List.not_mem_nil]⟩

def new (session : BackendHandle) (minted : List BackendHandle) : LateMintedObjects where
  session := session
  handles := keptHandles minted
  lifetimes := List.replicate (keptHandles minted).length none
  incarnation := none
  distinct := kept_handles.1
  nonzero := kept_handles.2.1
  parallel := List.length_replicate

-- A handle takes the lifetime captured for it during the mint, if there is one.
def fromCaptured (session : BackendHandle) (minted : List BackendHandle) (captured : List (BackendHandle × UInt64)) : LateMintedObjects :=
  { new session minted with
      lifetimes := (keptHandles minted).map fun handle => (captured.find? fun pair => pair.1 = handle).map Prod.snd
      parallel := List.length_map _ }

instance : LateMintSettlement LateMintedObjects where
  isEmpty payload := payload.handles.isEmpty
  bindIncarnation payload incarnation := { payload with incarnation := incarnation }

end LateMintedObjects

inductive Oneshot (α : Type) where
  | empty
  | full (value : α)
  | taken
  | closed
deriving DecidableEq, Repr

-- The worker reports its outcome on the channel before the call returns it.
inductive WorkerPhase (P : Type) where
  | running
  | reported (outcome : Except CkRv P)
  | returned (outcome : Except CkRv P)
  | refused
deriving DecidableEq, Repr

inductive HandlerPhase (P : Type) where
  | awaiting
  | consumed (payload : P)
  | failed
  | replying
  | gone
deriving DecidableEq, Repr

inductive SettlerPhase where
  | idle
  | waiting
  | finished
deriving DecidableEq, Repr

-- One armed owner with everything that can reach its channel. `adopted` and `settled`
-- are ghost state: the payloads taken over by a registration and those handed to the
-- detached cleanup.
structure MintRun (P : Type) where
  worker : WorkerPhase P
  channel : Oneshot (Except CkRv P)
  handler : HandlerPhase P
  armed : Bool
  incarnation : Option UInt64
  settler : SettlerPhase
  adopted : List P
  settled : List P

inductive MintAction (P : Type) where
  | refuse
  | report (outcome : Except CkRv P)
  | finish
  | deliver
  | timeOut
  | register (adopted : Bool)
  | settleOnError
  | dropOwner
  | settlerWakes
deriving DecidableEq, Repr

section Steps

variable {P : Type} [LateMintSettlement P]

def MintRun.armForSession (incarnation : Option UInt64) : MintRun P := ⟨.running, .empty, .awaiting, true, incarnation, .idle, [], []⟩

variable (run : MintRun P)

namespace MintRun

def receiving : Bool := run.armed || run.settler == .waiting

def report (outcome : Except CkRv P) : MintRun P :=
  { run with worker := .reported outcome, channel := if run.receiving then .full outcome else .taken }

def disarm : MintRun P := { run with armed := false }

def spawnSettlement (payload : P) : MintRun P :=
  let bound := LateMintSettlement.bindIncarnation payload run.incarnation
  if LateMintSettlement.isEmpty bound then run else { run with settled := run.settled ++ [bound] }

def settleOnError : MintRun P :=
  if run.armed then
    match run.channel with
    | .full (.error _) => { run with channel := .taken, armed := false }
    | .full (.ok payload) => { run with channel := .taken, armed := false }.spawnSettlement payload
    | .empty => run
    | .taken | .closed => run.disarm
  else run

def drop : MintRun P := if run.armed then { run with armed := false, settler := .waiting } else run

end MintRun

-- The handler may be dropped at any await; a registration and the disarm after it are
-- not separated by one.
def mintStep : MintAction P → Option (MintRun P)
  | .refuse =>
    match run.worker, run.handler with
    | .running, .awaiting => some { run with worker := .refused, channel := .closed, handler := .failed }
    | _, _ => none
  | .report outcome =>
    match run.worker with
    | .running => some (run.report outcome)
    | _ => none
  | .finish =>
    match run.worker with
    | .reported outcome => some { run with worker := .returned outcome }
    | _ => none
  | .deliver =>
    match run.handler, run.worker with
    | .awaiting, .returned (.ok payload) => some { run with handler := .consumed payload }
    | .awaiting, .returned (.error _) => some { run with handler := .failed }
    | _, _ => none
  | .timeOut =>
    match run.handler with
    | .awaiting => some { run with handler := .failed }
    | _ => none
  | .register adopted =>
    match run.handler with
    | .consumed payload =>
      if adopted then some { run.disarm with handler := .replying, adopted := run.adopted ++ [payload] }
      else some { run with handler := .replying }
    | _ => none
  | .settleOnError =>
    match run.handler with
    | .failed => some { run.settleOnError with handler := .replying }
    | _ => none
  | .dropOwner =>
    match run.handler with
    | .gone => none
    | _ => some { run.drop with handler := .gone }
  | .settlerWakes =>
    match run.settler, run.channel with
    | .waiting, .full (.ok payload) => some ({ run with channel := .taken, settler := .finished }.spawnSettlement payload)
    | .waiting, .full (.error _) => some { run with channel := .taken, settler := .finished }
    | .waiting, .closed => some { run with settler := .finished }
    | _, _ => none

end Steps

end Pkcs11Proxy.Server
