import Pkcs11Proxy.Lib.Dict
import Pkcs11Proxy.Lib.Exec
import Pkcs11Proxy.Types.CkRv

namespace Pkcs11Proxy.Shim

open Lib Pkcs11Proxy.Types

inductive SessionCall (Handle Slot : Type) where
  | openSession (slot : Slot)
  | closeSession (session : Handle)
  | closeAllSessions (slot : Slot)
deriving DecidableEq

inductive CallPhase (Handle Slot : Type) where
  | calling (call : SessionCall Handle Slot)
  | opened (session : Handle) (slot : Slot)
  | closed (session : Handle)
  | closedAll (slot : Slot)
  | returned
deriving DecidableEq

-- `live` are the sessions the daemon has open for this client, and `slots` is
-- SESSION_SLOTS.
structure ShimWorld (Handle Slot : Type) where
  live : Dict Handle Slot
  slots : Dict Handle Slot
  threads : List (CallPhase Handle Slot)

inductive DaemonAnswer (Handle : Type) where
  | ok (session : Handle)
  | failed

inductive ShimAction (Handle Slot : Type) where
  | call (call : SessionCall Handle Slot)
  | daemon (k : Nat) (answer : DaemonAnswer Handle)
  | shim (k : Nat)

variable {Handle Slot : Type} [DecidableEq Handle] [DecidableEq Slot]

namespace ShimWorld

def new : ShimWorld Handle Slot := ⟨∅, ∅, []⟩

def rememberSessionSlot (slots : Dict Handle Slot) (session : Handle) (slot : Slot) : Dict Handle Slot := slots.insert session slot

def isSessionKnown (slots : Dict Handle Slot) (session : Handle) : Bool := (slots.lookup session).isSome

def forgetSessionSlot (slots : Dict Handle Slot) (session : Handle) : Dict Handle Slot := slots.erase session

def evictSlotSessionCaches (slots : Dict Handle Slot) (slot : Slot) : Dict Handle Slot :=
  dictRetain (fun session => decide (slots.lookup session ≠ some slot)) slots

end ShimWorld

-- The session checks that open an Init call, `c_digest_init` for one. None lets the
-- call go on to its mechanism.
def initGate (initialized : Bool) (slots : Dict Handle Slot) (session : Handle) : Option CkRv :=
  if !initialized then some .cryptokiNotInitialized
  else if !ShimWorld.isSessionKnown slots session then some .sessionHandleInvalid
  else none

def daemonStep (live : Dict Handle Slot) : CallPhase Handle Slot → DaemonAnswer Handle → Option (Dict Handle Slot × CallPhase Handle Slot)
  | .calling (.openSession slot), .ok session =>
    if (live.lookup session).isNone then some (live.insert session slot, .opened session slot) else none
  | .calling (.closeSession session), .ok _ => if (live.lookup session).isSome then some (live.erase session, .closed session) else none
  | .calling (.closeAllSessions slot), .ok _ =>
    some (dictRetain (fun session => decide (live.lookup session ≠ some slot)) live, .closedAll slot)
  | .calling _, .failed => some (live, .returned)
  | _, _ => none

def localStep (slots : Dict Handle Slot) : CallPhase Handle Slot → Option (Dict Handle Slot)
  | .opened session slot => some (ShimWorld.rememberSessionSlot slots session slot)
  | .closed session => some (ShimWorld.forgetSessionSlot slots session)
  | .closedAll slot => some (ShimWorld.evictSlotSessionCaches slots slot)
  | .calling _ | .returned => none

section

variable (world : ShimWorld Handle Slot)

def shimStep : ShimAction Handle Slot → Option (ShimWorld Handle Slot)
  | .call call => some { world with threads := world.threads ++ [.calling call] }
  | .daemon k answer =>
    world.threads[k]?.bind fun phase =>
      (daemonStep world.live phase answer).map fun done => { world with live := done.1, threads := world.threads.set k done.2 }
  | .shim k =>
    world.threads[k]?.bind fun phase =>
      (localStep world.slots phase).map fun slots => { world with slots := slots, threads := world.threads.set k .returned }

def forgetsClosed : CallPhase Handle Slot → Bool
  | .closed session => (world.live.lookup session).isNone
  | .closedAll slot => decide (∀ session ∈ world.slots.keys, world.slots.lookup session = some slot → world.live.lookup session = none)
  | .calling _ | .opened _ _ | .returned => true

def evictsClosed : ShimAction Handle Slot → Bool
  | .call _ | .daemon _ _ => true
  | .shim k => world.threads[k]?.all (forgetsClosed world)

def Accounted : Prop :=
  ∀ session slot, world.live.lookup session = some slot →
    ShimWorld.isSessionKnown world.slots session = true ∨ ∃ (k : Nat) (opened : Slot), world.threads[k]? = some (.opened session opened)

omit [DecidableEq Slot] in
theorem accounted_new : Accounted (ShimWorld.new : ShimWorld Handle Slot) := by
  intro session slot live
  cases live

variable {slots : Dict Handle Slot}

omit [DecidableEq Slot] in
theorem known_of_lookup {session : Handle} {slot : Slot} (found : slots.lookup session = some slot) :
    ShimWorld.isSessionKnown slots session = true := by
  rw [ShimWorld.isSessionKnown, found]
  rfl

theorem daemon_opens {live after : Dict Handle Slot} {phase next : CallPhase Handle Slot} {answer : DaemonAnswer Handle}
    (stepped : daemonStep live phase answer = some (after, next)) (session : Handle) (slot : Slot)
    (found : after.lookup session = some slot) : live.lookup session = some slot ∨ next = .opened session slot := by
  cases phase with
  | calling call =>
    cases answer with
    | failed =>
      cases call <;> cases stepped <;> exact .inl found
    | ok fresh =>
      cases call with
      | openSession slot =>
        simp only [daemonStep, Option.ite_none_right_eq_some, Option.some.injEq, Prod.mk.injEq] at stepped
        obtain ⟨-, rfl, rfl⟩ := stepped
        rw [dict_lookup_insert] at found
        split at found
        · rename_i same
          cases found
          exact .inr (by rw [same])
        · exact .inl found
      | closeSession closed =>
        simp only [daemonStep, Option.ite_none_right_eq_some, Option.some.injEq, Prod.mk.injEq] at stepped
        obtain ⟨-, rfl, -⟩ := stepped
        rw [dict_lookup_erase] at found
        split at found
        · cases found
        · exact .inl found
      | closeAllSessions slot =>
        cases stepped
        rw [dict_lookup_retain] at found
        split at found
        · exact .inl found
        · cases found
  | opened | closed | closedAll | returned => cases answer <;> cases stepped

variable {world : ShimWorld Handle Slot}

omit [DecidableEq Slot] in
theorem accounted_daemon {k : Nat} {phase after : CallPhase Handle Slot} {live : Dict Handle Slot}
    (inv : Accounted world) (here : world.threads[k]? = some phase) (before : ∀ session slot, phase ≠ .opened session slot)
    (opens : ∀ session slot, live.lookup session = some slot → world.live.lookup session = some slot ∨ after = .opened session slot) :
    Accounted { world with live := live, threads := world.threads.set k after } := by
  intro session slot found
  rcases opens session slot found with old | mine
  · rcases inv session slot old with known | ⟨j, opened, pending⟩
    · exact .inl known
    · refine .inr ⟨j, opened, ?_⟩
      have other : k ≠ j := by
        rintro rfl
        rw [here] at pending
        exact before session opened (Option.some.inj pending)
      rw [List.getElem?_set_ne other]
      exact pending
  · refine .inr ⟨k, slot, ?_⟩
    rw [List.getElem?_set_self (List.getElem?_eq_some_iff.mp here).1, mine]

omit [DecidableEq Slot] in
theorem accounted_local {k : Nat} {phase : CallPhase Handle Slot}
    (inv : Accounted world) (here : world.threads[k]? = some phase)
    (keeps : ∀ session slot, world.live.lookup session = some slot → ShimWorld.isSessionKnown world.slots session = true →
      ShimWorld.isSessionKnown slots session = true)
    (settles : ∀ session slot, phase = .opened session slot → ShimWorld.isSessionKnown slots session = true) :
    Accounted { world with slots := slots, threads := world.threads.set k .returned } := by
  intro session slot live
  rcases inv session slot live with known | ⟨j, opened, pending⟩
  · exact .inl (keeps session slot live known)
  · by_cases same : j = k
    · subst same
      rw [here] at pending
      exact .inl (settles session opened (Option.some.inj pending))
    · refine .inr ⟨j, opened, ?_⟩
      rw [List.getElem?_set_ne (Ne.symm same)]
      exact pending

theorem accounted_step {action : ShimAction Handle Slot} {next : ShimWorld Handle Slot}
    (inv : Accounted world) (allowed : evictsClosed world action = true) (taken : shimStep world action = some next) : Accounted next := by
  cases action with
  | call call =>
    cases taken
    intro session slot live
    rcases inv session slot live with known | ⟨k, opened, pending⟩
    · exact .inl known
    · exact .inr ⟨k, opened, by
        rw [List.getElem?_append_left (List.getElem?_eq_some_iff.mp pending).1]
        exact pending⟩
  | daemon k answer =>
    obtain ⟨phase, here, taken⟩ := Option.bind_eq_some_iff.mp taken
    obtain ⟨⟨live, after⟩, stepped, rfl⟩ := Option.map_eq_some_iff.mp taken
    apply accounted_daemon inv here
    · intro session slot same
      subst same
      cases answer with
      | ok | failed => cases stepped
    · exact daemon_opens stepped
  | shim k =>
    obtain ⟨phase, here, taken⟩ := Option.bind_eq_some_iff.mp taken
    obtain ⟨slots, stepped, rfl⟩ := Option.map_eq_some_iff.mp taken
    simp only [evictsClosed, here, Option.all_some] at allowed
    cases phase with
    | opened mine slot =>
      cases stepped
      apply accounted_local inv here
      · intro session _ _ known
        rw [ShimWorld.isSessionKnown, ShimWorld.rememberSessionSlot, dict_lookup_insert]
        split
        · rfl
        · exact known
      · intro session opened same
        cases same
        exact known_of_lookup (by rw [ShimWorld.rememberSessionSlot, dict_lookup_insert, if_pos rfl])
    | closed mine =>
      cases stepped
      apply accounted_local inv here
      · intro session slot live known
        have other : session ≠ mine := by
          rintro rfl
          rw [forgetsClosed, live] at allowed
          cases allowed
        rw [ShimWorld.isSessionKnown, ShimWorld.forgetSessionSlot, dict_lookup_erase, if_neg other]
        exact known
      · intro session opened same
        cases same
    | closedAll mine =>
      cases stepped
      have closed := of_decide_eq_true allowed
      apply accounted_local inv here
      · intro session slot live known
        have other : world.slots.lookup session ≠ some mine := by
          intro evicted
          have dead := closed session (mem_dict_keys.mpr ⟨mine, evicted⟩) evicted
          rw [live] at dead
          cases dead
        rw [ShimWorld.isSessionKnown, ShimWorld.evictSlotSessionCaches, dict_lookup_retain, if_pos (decide_eq_true other)]
        exact known
      · intro session opened same
        cases same
    | calling | returned => cases stepped

def CallPhase.between : CallPhase Handle Slot → Bool
  | .opened _ _ | .closed _ | .closedAll _ => true
  | .calling _ | .returned => false

def ShimWorld.quiet : Prop := ∀ phase ∈ world.threads, phase.between = false

end

theorem live_sessions_known (actions : List (ShimAction Handle Slot)) (final : ShimWorld Handle Slot)
    (meets : along shimStep (fun world action => evictsClosed world action = true) ShimWorld.new actions)
    (ran : exec shimStep ShimWorld.new actions = some final) (quiet : final.quiet) (session : Handle) (slot : Slot)
    (live : final.live.lookup session = some slot) :
    ShimWorld.isSessionKnown final.slots session = true ∧ initGate true final.slots session = none := by
  have inv := exec_invariant_along shimStep _ Accounted (fun world action next inv allowed taken =>
    accounted_step inv allowed taken) accounted_new meets ran
  have known : ShimWorld.isSessionKnown final.slots session = true := by
    rcases inv session slot live with known | ⟨k, opened, pending⟩
    · exact known
    · cases quiet _ (List.mem_of_getElem? pending)
  exact ⟨known, by rw [initGate, known]; rfl⟩

def openedAfterEviction : List (ShimAction Nat Nat) :=
  [.call (.openSession 1), .daemon 0 (.ok 5), .shim 0, .call (.closeAllSessions 1), .call (.openSession 2), .daemon 1 (.ok 0),
    .daemon 2 (.ok 6), .shim 2, .shim 1, .call (.openSession 1), .daemon 3 (.ok 7), .shim 3]

theorem live_sessions_known_reopened :
    along shimStep (fun world action => evictsClosed world action = true) ShimWorld.new openedAfterEviction ∧
      ∃ final, exec shimStep ShimWorld.new openedAfterEviction = some final ∧ final.live.lookup 7 = some 1 ∧
        ShimWorld.isSessionKnown final.slots 7 = true := by
  have meets : along shimStep (fun world action => evictsClosed world action = true) ShimWorld.new openedAfterEviction := by
    decide +kernel
  have runs : ((exec shimStep ShimWorld.new openedAfterEviction).map fun final => (final.threads, final.live.lookup 7)) =
      some (List.replicate 4 .returned, some 1) := by
    decide +kernel
  obtain ⟨final, ran, reached⟩ := Option.map_eq_some_iff.mp runs
  obtain ⟨threads, live⟩ := Prod.mk.inj reached
  have quiet : final.quiet := by
    intro phase member
    rw [threads] at member
    rw [List.eq_of_mem_replicate member]
    rfl
  exact ⟨meets, final, ran, live, (live_sessions_known openedAfterEviction final meets ran quiet 7 1 live).1⟩

def openedDuringEviction : List (ShimAction Nat Nat) :=
  [.call (.closeAllSessions 1), .daemon 0 (.ok 0), .call (.openSession 1), .daemon 1 (.ok 5), .shim 1, .shim 0]

theorem eviction_forgets_live_session :
    ∃ final, exec shimStep ShimWorld.new openedDuringEviction = some final ∧ final.quiet ∧ final.live.lookup 5 = some 1 ∧
      ShimWorld.isSessionKnown final.slots 5 = false ∧ initGate true final.slots 5 = some .sessionHandleInvalid := by
  have runs : ((exec shimStep ShimWorld.new openedDuringEviction).map fun final =>
      (final.threads, final.live.lookup 5, ShimWorld.isSessionKnown final.slots 5)) =
      some (List.replicate 2 .returned, some 1, false) := by
    decide +kernel
  obtain ⟨final, ran, reached⟩ := Option.map_eq_some_iff.mp runs
  obtain ⟨threads, rest⟩ := Prod.mk.inj reached
  obtain ⟨live, unknown⟩ := Prod.mk.inj rest
  refine ⟨final, ran, ?_, live, unknown, by rw [initGate, unknown]; rfl⟩
  intro phase member
  rw [threads] at member
  rw [List.eq_of_mem_replicate member]
  rfl

end Pkcs11Proxy.Shim
