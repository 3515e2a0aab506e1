import Pkcs11Proxy.Shim.SessionSlots

namespace Pkcs11Proxy.Shim

open Lib Pkcs11Proxy.Types

variable {Handle Slot : Type} [DecidableEq Handle] [DecidableEq Slot]

inductive SuspectCall (Handle Slot : Type) where
  | dataPlane (session : Handle)
  | mechanismError (session : Handle)
  | closeSession (session : Handle)
  | closeAllSessions (slot : Slot)

-- `seen` is ghost state: the marks set on the session before the daemon evaluated the call.
inductive SuspectPoint (Handle Slot : Type) where
  | calling (call : SuspectCall Handle Slot)
  | replied (session : Handle) (rv : CkRv) (seen : Nat)
  | probing (session : Handle)
  | settling (session : Handle) (alive : Bool) (seen : Nat)
  | evicting (session : Handle)
  | closed (session : Handle) (evict : Bool)
  | closedAll (slot : Slot) (evict : Bool)
  | returned

-- A mark that was removed while its session stayed known: what the settling call had seen,
-- and the marks set until then.
structure Settlement (Handle : Type) where
  session : Handle
  seen : Nat
  marks : Nat

-- `suspect` is SUSPECT_AFTER_BATCH_FAILURE. `marks` and `settled` are ghost state.
structure SuspectState (Handle Slot : Type) where
  slots : Dict Handle Slot
  suspect : Finset Handle
  threads : List (SuspectPoint Handle Slot)
  marks : Handle → Nat
  settled : List (Settlement Handle)

inductive SuspectAction (Handle Slot : Type) where
  | opened (session : Handle) (slot : Slot)
  | clearAllCaches
  | call (call : SuspectCall Handle Slot)
  | advance (k : Nat) (rv : CkRv) (backend : Bool)

def verdict (rv : CkRv) : Option Bool :=
  if rv = .ok then some true else if rv = .sessionHandleInvalid ∨ rv = .sessionClosed then some false else none

-- `backend` tells a decoded answer of the backend from a transport or protocol error.
def closeEvicts (backend : Bool) (rv : CkRv) : Bool :=
  rv = .ok || backend && (rv = .deviceError || rv = .sessionClosed || rv = .sessionHandleInvalid)

def closeAllEvicts (backend : Bool) (rv : CkRv) : Bool :=
  rv = .ok || backend && (rv = .slotIdInvalid || rv = .cryptokiNotInitialized)

namespace SuspectState

variable (state : SuspectState Handle Slot)

def new : SuspectState Handle Slot := ⟨∅, ∅, [], fun _ => 0, []⟩

def onSlot (slot : Slot) : Finset Handle := state.slots.keys.filter fun session => state.slots.lookup session = some slot

-- Both maps are locked, SESSION_SLOTS first.
def mark (sessions : Finset Handle) : SuspectState Handle Slot :=
  { state with
      suspect := state.suspect ∪ sessions
      marks := fun session => if session ∈ sessions then state.marks session + 1 else state.marks session }

def markSlotSessionsSuspect (slot : Slot) : SuspectState Handle Slot := state.mark (state.onSlot slot)

def markSessionSuspect (session : Handle) : SuspectState Handle Slot := state.mark (state.slots.keys.filter (· = session))

def forgetSessionSlot (session : Handle) : SuspectState Handle Slot :=
  { state with slots := ShimWorld.forgetSessionSlot state.slots session, suspect := state.suspect.erase session }

def evictSlotSessionCaches (slot : Slot) : SuspectState Handle Slot :=
  { state with slots := ShimWorld.evictSlotSessionCaches state.slots slot, suspect := state.suspect \ state.onSlot slot }

def clearSessionSuspect (session : Handle) (seen : Nat) : SuspectState Handle Slot :=
  { state with
      suspect := state.suspect.erase session
      settled := if session ∈ state.suspect ∧ session ∈ state.slots then state.settled ++ [⟨session, seen, state.marks session⟩]
        else state.settled }

-- The daemon's evaluation is one step, its answer `rv`; the rest are the shim's own steps.
def advance (rv : CkRv) (backend : Bool) : SuspectPoint Handle Slot → Option (SuspectState Handle Slot × SuspectPoint Handle Slot)
  | .calling (.dataPlane session) => some (state, .replied session rv (state.marks session))
  | .replied session rv seen =>
    some (state, if session ∈ state.suspect then (verdict rv).elim .returned (.settling session · seen) else .returned)
  | .calling (.mechanismError session) => some (state, if session ∈ state.suspect then .probing session else .returned)
  | .probing session => some (state, (verdict rv).elim .returned (.settling session · (state.marks session)))
  | .settling session alive seen => some (state.clearSessionSuspect session seen, if alive then .returned else .evicting session)
  | .evicting session => some (state.forgetSessionSlot session, .returned)
  | .calling (.closeSession session) => some (state, .closed session (closeEvicts backend rv))
  | .closed session evict => some (if evict then state.forgetSessionSlot session else state.markSessionSuspect session, .returned)
  | .calling (.closeAllSessions slot) => some (state, .closedAll slot (closeAllEvicts backend rv))
  | .closedAll slot evict => some (if evict then state.evictSlotSessionCaches slot else state.markSlotSessionsSuspect slot, .returned)
  | .returned => none

end SuspectState

def suspectStep (state : SuspectState Handle Slot) : SuspectAction Handle Slot → Option (SuspectState Handle Slot)
  | .opened session slot => some { state with slots := ShimWorld.rememberSessionSlot state.slots session slot }
  | .clearAllCaches => some { state with slots := ∅, suspect := ∅ }
  | .call call => some { state with threads := state.threads ++ [.calling call] }
  | .advance k rv backend =>
    state.threads[k]?.bind fun point => (state.advance rv backend point).map fun done =>
      { done.1 with threads := state.threads.set k done.2 }

def SuspectPoint.evidence : SuspectPoint Handle Slot → Option (Handle × Nat)
  | .replied session rv seen => (verdict rv).map fun _ => (session, seen)
  | .settling session _ seen => some (session, seen)
  | _ => none

def SuspectState.unawaited (state : SuspectState Handle Slot) (sessions : Finset Handle) : Bool :=
  state.threads.all fun point => point.evidence.all (·.1 ∉ sessions)

def marksSettled (state : SuspectState Handle Slot) : SuspectAction Handle Slot → Bool
  | .advance k _ _ =>
    match state.threads[k]? with
    | some (.closed session false) => state.unawaited (state.slots.keys.filter (· = session))
    | some (.closedAll slot false) => state.unawaited (state.onSlot slot)
    | _ => true
  | _ => true

section

variable {state next : SuspectState Handle Slot} {k : Nat} {point after : SuspectPoint Handle Slot} {rv : CkRv} {backend : Bool}

def SuspectsKnown (state : SuspectState Handle Slot) : Prop := ∀ session ∈ state.suspect, session ∈ state.slots

omit [DecidableEq Slot] in
theorem known_mark {sessions : Finset Handle} (known : SuspectsKnown state)
    (inside : sessions ⊆ state.slots.keys) : SuspectsKnown (state.mark sessions) := by
  intro session member
  rcases Finset.mem_union.mp member with old | new
  · exact known session old
  · exact Finmap.mem_keys.mp (inside new)

omit [DecidableEq Slot] in
theorem known_forget {session : Handle} (known : SuspectsKnown state) : SuspectsKnown (state.forgetSessionSlot session) := by
  intro other member
  obtain ⟨apart, old⟩ := Finset.mem_erase.mp member
  exact Finmap.mem_erase.mpr ⟨apart, known other old⟩

theorem known_evict {slot : Slot} (known : SuspectsKnown state) : SuspectsKnown (state.evictSlotSessionCaches slot) := by
  intro other member
  obtain ⟨old, kept⟩ := Finset.mem_sdiff.mp member
  have elsewhere : state.slots.lookup other ≠ some slot :=
    fun here => kept (Finset.mem_filter.mpr ⟨Finmap.mem_keys.mpr (known other old), here⟩)
  rw [← Finmap.lookup_isSome, SuspectState.evictSlotSessionCaches, ShimWorld.evictSlotSessionCaches, dict_lookup_retain,
    if_pos (decide_eq_true elsewhere), Finmap.lookup_isSome]
  exact known other old

theorem known_advance (known : SuspectsKnown state) (taken : state.advance rv backend point = some (next, after)) : SuspectsKnown next := by
  cases point with
  | calling call => cases call <;> cases taken <;> exact known
  | replied | probing =>
    cases taken
    exact known
  | settling session alive seen =>
    cases taken
    exact fun other member => known other (Finset.mem_of_mem_erase member)
  | evicting session =>
    cases taken
    exact known_forget known
  | closed session evict =>
    cases taken
    cases evict with
    | true => exact known_forget known
    | false => exact known_mark known (Finset.filter_subset _ _)
  | closedAll slot evict =>
    cases taken
    cases evict with
    | true => exact known_evict known
    | false => exact known_mark known (Finset.filter_subset _ _)
  | returned => cases taken

variable {action : SuspectAction Handle Slot}

theorem known_step (known : SuspectsKnown state) (taken : suspectStep state action = some next) : SuspectsKnown next := by
  cases action with
  | opened session slot =>
    cases taken
    exact fun other member => Finmap.mem_insert.mpr (.inr (known other member))
  | clearAllCaches =>
    cases taken
    exact fun session member => absurd member (Finset.notMem_empty session)
  | call call =>
    cases taken
    exact known
  | advance k rv backend =>
    obtain ⟨point, -, moved⟩ := Option.bind_eq_some_iff.mp taken
    obtain ⟨⟨after, point⟩, stepped, rfl⟩ := Option.map_eq_some_iff.mp moved
    exact fun session member => known_advance known stepped session member

structure EvidenceNew (state : SuspectState Handle Slot) : Prop where
  held : ∀ point ∈ state.threads, ∀ session seen, point.evidence = some (session, seen) → seen = state.marks session
  used : ∀ settlement ∈ state.settled, settlement.marks ≤ settlement.seen

omit [DecidableEq Handle] [DecidableEq Slot] in
theorem evidence_kept (new : EvidenceNew state)
    (marks : ∀ other ∈ state.threads, ∀ session seen, other.evidence = some (session, seen) → next.marks session = state.marks session)
    (mine : ∀ session seen, after.evidence = some (session, seen) → seen = next.marks session)
    (used : ∀ settlement ∈ next.settled, settlement ∈ state.settled ∨ settlement.marks ≤ settlement.seen) :
    EvidenceNew { next with threads := state.threads.set k after } where
  held := forall_set (fun other old session seen evidence =>
    (new.held other old session seen evidence).trans (marks other old session seen evidence).symm) mine
  used settlement member := (used settlement member).elim (new.used settlement) id

theorem evidence_advance (new : EvidenceNew state) (held : state.threads[k]? = some point)
    (settled : marksSettled state (.advance k rv backend) = true)
    (taken : state.advance rv backend point = some (next, after)) : EvidenceNew { next with threads := state.threads.set k after } := by
  rw [marksSettled, held] at settled
  have here := new.held point (List.mem_of_getElem? held)
  have passed : ∀ {point : SuspectPoint Handle Slot}, (∀ session seen, point.evidence = some (session, seen) → seen = state.marks session) →
      EvidenceNew { state with threads := state.threads.set k point } := fun mine => evidence_kept new (fun _ _ _ _ _ => rfl) mine fun _ => .inl
  have marked : ∀ sessions, state.unawaited sessions = true → EvidenceNew
    { state.mark sessions with threads := state.threads.set k .returned } := by
    intro sessions unawaited
    refine evidence_kept new (fun other member session seen evidence => if_neg fun marked => ?_) nofun fun _ => .inl
    have apart := List.all_eq_true.mp unawaited other member
    rw [evidence, Option.all_some, decide_eq_true_iff] at apart
    exact apart marked
  cases point with
  | calling call =>
    cases call <;> cases taken
    case calling.dataPlane.refl session =>
      apply passed
      intro other seen evidence
      obtain ⟨-, -, same⟩ := Option.map_eq_some_iff.mp evidence
      cases same
      rfl
    case calling.mechanismError.refl session =>
      apply passed
      by_cases suspect : session ∈ state.suspect <;> simp [suspect, SuspectPoint.evidence]
    all_goals exact passed nofun
  | replied session answer seen =>
    cases taken
    apply passed
    split
    · rw [SuspectPoint.evidence] at here
      cases judged : verdict answer with
      | none => nofun
      | some alive =>
        rw [judged] at here
        exact here
    · nofun
  | probing session =>
    cases taken
    apply passed
    cases verdict rv with
    | none => nofun
    | some alive =>
      intro other seen same
      cases same
      rfl
  | settling session alive seen =>
    cases taken
    refine evidence_kept new (fun _ _ _ _ _ => rfl) ?_ ?_
    · cases alive <;> nofun
    · intro settlement member
      rw [SuspectState.clearSessionSuspect] at member
      split at member
      · rcases List.mem_append.mp member with old | added
        · exact .inl old
        · cases List.mem_singleton.mp added
          exact .inr (here session seen rfl).ge
      · exact .inl member
  | evicting session =>
    cases taken
    exact evidence_kept new (fun _ _ _ _ _ => rfl) nofun fun _ => .inl
  | closed session evict =>
    cases taken
    cases evict with
    | true => exact evidence_kept new (fun _ _ _ _ _ => rfl) nofun fun _ => .inl
    | false => exact marked _ settled
  | closedAll slot evict =>
    cases taken
    cases evict with
    | true => exact evidence_kept new (fun _ _ _ _ _ => rfl) nofun fun _ => .inl
    | false => exact marked _ settled
  | returned => cases taken

theorem evidence_step (new : EvidenceNew state) (settled : marksSettled state action = true)
    (taken : suspectStep state action = some next) : EvidenceNew next := by
  cases action with
  | opened | clearAllCaches =>
    cases taken
    exact ⟨new.held, new.used⟩
  | call call =>
    cases taken
    exact ⟨forall_added new.held nofun, new.used⟩
  | advance k rv backend =>
    obtain ⟨point, held, moved⟩ := Option.bind_eq_some_iff.mp taken
    obtain ⟨⟨after, point⟩, stepped, rfl⟩ := Option.map_eq_some_iff.mp moved
    exact evidence_advance new held settled stepped

end

-- A suspect session is known in every run. Where no mark is set on a session while an
-- evaluated call on it may still settle one, a mark is removed from a known session
-- only by a call that the daemon evaluated after it was set.
theorem suspicion_settled_by_newer (actions : List (SuspectAction Handle Slot)) (state : SuspectState Handle Slot)
    (reached : exec suspectStep SuspectState.new actions = some state) :
    (∀ session ∈ state.suspect, session ∈ state.slots) ∧
    (along suspectStep (fun state action => marksSettled state action = true) SuspectState.new actions →
      ∀ settlement ∈ state.settled, settlement.marks ≤ settlement.seen) := by
  constructor
  · exact exec_invariant suspectStep SuspectsKnown (fun _ _ _ known taken => known_step known taken)
      (by simp [SuspectsKnown, SuspectState.new]) reached
  · intro settled
    exact (exec_invariant_along suspectStep _ EvidenceNew (fun _ _ _ new met taken => evidence_step new met taken)
      ⟨by simp [SuspectState.new], by simp [SuspectState.new]⟩ settled reached).used

def settledRun : List (SuspectAction Nat Nat) :=
  [.opened 7 0, .call (.closeSession 7), .advance 0 .functionFailed false, .advance 0 .ok true, .call (.dataPlane 7), .advance 1 .ok true,
    .advance 1 .ok true, .advance 1 .ok true]

theorem suspicion_settled_by_newer_call : ∃ state settlement, exec suspectStep SuspectState.new settledRun = some state ∧
    settlement ∈ state.settled ∧ settlement.session = 7 ∧ settlement.marks ≤ settlement.seen :=
  ⟨_, ⟨7, 1, 1⟩, rfl, List.mem_singleton_self _, rfl, (suspicion_settled_by_newer settledRun _ rfl).2 (by decide) ⟨7, 1, 1⟩
    (List.mem_singleton_self _)⟩

-- The daemon answers a call, a close of its session then fails and marks the session, and
-- the older answer clears the mark.
theorem older_answer_clears_mark : ∃ state settlement, exec suspectStep SuspectState.new
      [.opened 7 0, .call (.dataPlane 7), .advance 0 .ok true, .call (.closeSession 7), .advance 1 .functionFailed false, .advance 1 .ok true,
        .advance 0 .ok true, .advance 0 .ok true] = some state ∧
    settlement ∈ state.settled ∧ settlement.seen < settlement.marks :=
  ⟨_, ⟨(7 : Nat), 0, 1⟩, rfl, List.mem_singleton_self _, Nat.zero_lt_one⟩

end Pkcs11Proxy.Shim
