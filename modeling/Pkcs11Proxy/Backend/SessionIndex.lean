import Pkcs11Proxy.Lib.Dict
import Pkcs11Proxy.Lib.Exec

namespace Pkcs11Proxy.Backend

open Lib

inductive Bookkeeping where
  | remember (session slot : UInt64)
  | forget (session : UInt64)
  | dropSlot (slot : UInt64)
deriving DecidableEq, Repr

structure SessionIndex where
  sessionSlotMap : Dict UInt64 UInt64
  slotSessions : Dict UInt64 (Finset UInt64)
  native : Dict UInt64 UInt64
  pending : List Bookkeeping

-- A native call that fails changes nothing and is left out.
inductive IndexAction where
  | openSession (session slot : UInt64)
  | closeSession (session : UInt64)
  | closeAllSessions (slot : UInt64)
  | settle (call : Bookkeeping)

namespace SessionIndex

def new : SessionIndex := ⟨∅, ∅, ∅, []⟩

variable (index : SessionIndex)

def sessionsOn (slot : UInt64) : Finset UInt64 := (index.slotSessions.lookup slot).getD ∅

def rememberSessionSlot (session slot : UInt64) : SessionIndex :=
  { index with
      sessionSlotMap := index.sessionSlotMap.insert session slot
      slotSessions := index.slotSessions.insert slot (insert session (index.sessionsOn slot)) }

def forgetSessionSlot (session : UInt64) : SessionIndex :=
  match index.sessionSlotMap.lookup session with
  | none => index
  | some slot =>
    let sessions := (index.sessionsOn slot).erase session
    { index with
        sessionSlotMap := index.sessionSlotMap.erase session
        slotSessions := if sessions = ∅ then index.slotSessions.erase slot else index.slotSessions.insert slot sessions }

def dropMechCacheForSlot (slot : UInt64) : SessionIndex :=
  { index with
      sessionSlotMap := dictRetain (fun session => session ∉ index.sessionsOn slot) index.sessionSlotMap
      slotSessions := index.slotSessions.erase slot }

def keep : Bookkeeping → SessionIndex
  | .remember session slot => index.rememberSessionSlot session slot
  | .forget session => index.forgetSessionSlot session
  | .dropSlot slot => index.dropMechCacheForSlot slot

end SessionIndex

def indexStep (index : SessionIndex) : IndexAction → Option SessionIndex
  | .openSession session slot =>
    if index.native.lookup session = none then
      some { index with native := index.native.insert session slot, pending := index.pending ++ [.remember session slot] }
    else none
  | .closeSession session =>
    if index.native.lookup session = none then none
    else some { index with native := index.native.erase session, pending := index.pending ++ [.forget session] }
  | .closeAllSessions slot =>
    some { index with
      native := dictRetain (fun session => index.native.lookup session ≠ some slot) index.native
      pending := index.pending ++ [.dropSlot slot] }
  | .settle call => if call ∈ index.pending then some { index.keep call with pending := index.pending.erase call } else none

-- A session is remembered while it is open or its entry is still to be dropped, and not
-- beside an entry for another slot; no entry of an open session is dropped for good.
def Booked (index : SessionIndex) : IndexAction → Prop
  | .settle (.remember session slot) =>
    (∀ other ∈ index.sessionSlotMap.lookup session, other = slot) ∧
      (index.native.lookup session = some slot ∨ .forget session ∈ index.pending ∨ .dropSlot slot ∈ index.pending)
  | .settle (.forget session) =>
    ∀ slot ∈ index.sessionSlotMap.lookup session, index.native.lookup session = some slot → .remember session slot ∈ index.pending
  | .settle (.dropSlot slot) =>
    ∀ session ∈ index.sessionsOn slot, index.native.lookup session = some slot → .remember session slot ∈ index.pending
  | _ => True

instance decidableBooked (index : SessionIndex) : (action : IndexAction) → Decidable (Booked index action)
  | .settle (.remember ..) => @instDecidableAnd _ _ (Option.decidableForallMem _) _
  | .settle (.forget _) => Option.decidableForallMem _
  | .settle (.dropSlot _) => Finset.decidableDforallFinset
  | .openSession .. | .closeSession _ | .closeAllSessions _ => .isTrue trivial

-- An entry of a closed session has a call that will drop it, an open session without an
-- entry one that will enter it.
structure IndexInv (index : SessionIndex) : Prop where
  entries : ∀ session slot, index.sessionSlotMap.lookup session = some slot →
    index.native.lookup session = some slot ∨ .forget session ∈ index.pending ∨ .dropSlot slot ∈ index.pending
  opened : ∀ session slot, index.native.lookup session = some slot →
    index.sessionSlotMap.lookup session = some slot ∨ .remember session slot ∈ index.pending
  reverse : ∀ slot session, session ∈ index.sessionsOn slot ↔ index.sessionSlotMap.lookup session = some slot
  nonempty : ∀ slot, index.slotSessions.lookup slot ≠ some ∅

variable {session slot : UInt64} {call : Bookkeeping} {next : SessionIndex}

theorem index_inv_new : IndexInv SessionIndex.new where
  entries session _ found := nomatch (Finmap.lookup_empty session).symm.trans found
  opened session _ found := nomatch (Finmap.lookup_empty session).symm.trans found
  reverse _ _ := by simp [SessionIndex.new, SessionIndex.sessionsOn]
  nonempty slot found := nomatch (Finmap.lookup_empty slot).symm.trans found

section Steps

variable {index : SessionIndex} (inv : IndexInv index)
include inv

-- A native call returned: its own bookkeeping covers the sessions it opened or closed.
theorem index_inv_native {native : Dict UInt64 UInt64}
    (lost : ∀ session slot, index.native.lookup session = some slot →
      native.lookup session = some slot ∨ call = .forget session ∨ call = .dropSlot slot)
    (gained : ∀ session slot, native.lookup session = some slot → index.native.lookup session = some slot ∨ call = .remember session slot) :
    IndexInv { index with native := native, pending := index.pending ++ [call] } := by
  have old : ∀ {other : Bookkeeping}, other ∈ index.pending → other ∈ index.pending ++ [call] := fun member => List.mem_append_left _ member
  have new : ∀ {other : Bookkeeping}, call = other → other ∈ index.pending ++ [call] :=
    fun same => List.mem_append_right _ (List.mem_singleton.mpr same.symm)
  refine ⟨fun session slot found => ?_, fun session slot found => ?_, inv.reverse, inv.nonempty⟩
  · rcases inv.entries session slot found with there | dropped
    · exact (lost session slot there).imp_right (Or.imp new new)
    · exact .inr (dropped.imp old old)
  · rcases gained session slot found with there | same
    · exact (inv.opened session slot there).imp_right old
    · exact .inr (new same)

theorem index_inv_remember (booked : Booked index (.settle (.remember session slot))) :
    IndexInv { index.rememberSessionSlot session slot with pending := index.pending.erase (.remember session slot) } := by
  obtain ⟨unshared, held⟩ := booked
  have map : ∀ other, (index.rememberSessionSlot session slot).sessionSlotMap.lookup other =
      if other = session then some slot else index.sessionSlotMap.lookup other := fun other => dict_lookup_insert
  have set : ∀ at_, (index.rememberSessionSlot session slot).slotSessions.lookup at_ =
      if at_ = slot then some (insert session (index.sessionsOn slot)) else index.slotSessions.lookup at_ := fun at_ => dict_lookup_insert
  have kept : ∀ {call : Bookkeeping}, call ≠ .remember session slot → call ∈ index.pending → call ∈ index.pending.erase (.remember session slot) :=
    fun apart => (List.mem_erase_of_ne apart).mpr
  refine ⟨fun other at_ found => ?_, fun other at_ found => ?_, fun at_ other => ?_, fun at_ found => ?_⟩
  · replace found := (map other).symm.trans found
    split at found
    · rename_i same
      cases found
      rw [same]
      exact held.imp_right (Or.imp (kept nofun) (kept nofun))
    · exact (inv.entries other at_ found).imp_right (Or.imp (kept nofun) (kept nofun))
  · by_cases mine : Bookkeeping.remember other at_ = .remember session slot
    · cases mine
      exact .inl ((map _).trans (if_pos rfl))
    · rcases inv.opened other at_ found with entry | listed
      · refine .inl ((map other).trans ((if_neg fun same => mine ?_).trans entry))
        rw [same, unshared at_ (same ▸ entry)]
      · exact .inr (kept mine listed)
  · refine Iff.trans ?_ (Iff.of_eq (congrArg (· = some at_) (map other).symm))
    change other ∈ ((index.rememberSessionSlot session slot).slotSessions.lookup at_).getD ∅ ↔ _
    rw [set]
    by_cases here : at_ = slot
    · rw [if_pos here, Option.getD_some, Finset.mem_insert, inv.reverse, here]
      by_cases same : other = session
      · simp [same]
      · simp [same]
    · rw [if_neg here]
      refine (inv.reverse at_ other).trans ?_
      by_cases same : other = session
      · rw [if_pos same, same]
        exact ⟨fun entry => absurd (unshared at_ entry) here, fun found => absurd (Option.some.inj found).symm here⟩
      · rw [if_neg same]
  · replace found := (set at_).symm.trans found
    split at found
    · exact Finset.insert_ne_empty _ _ (Option.some.inj found)
    · exact inv.nonempty at_ found

theorem index_inv_dropped (gone : UInt64 → Prop) [DecidablePred gone] (drops : ∀ session slot, call ≠ .remember session slot)
    (native : next.native = index.native)
    (map : ∀ session, next.sessionSlotMap.lookup session = if gone session then none else index.sessionSlotMap.lookup session)
    (spared : ∀ session slot, index.sessionSlotMap.lookup session = some slot → ¬ gone session → call ≠ .forget session ∧ call ≠ .dropSlot slot)
    (booked : ∀ session slot, index.sessionSlotMap.lookup session = some slot → gone session → index.native.lookup session = some slot →
      .remember session slot ∈ index.pending)
    (reverse : ∀ slot session, session ∈ next.sessionsOn slot ↔
      (if gone session then none else index.sessionSlotMap.lookup session) = some slot)
    (nonempty : ∀ slot, next.slotSessions.lookup slot ≠ some ∅) : IndexInv { next with pending := index.pending.erase call } := by
  have remains : ∀ {other : Bookkeeping}, call ≠ other → other ∈ index.pending → other ∈ index.pending.erase call :=
    fun apart => (List.mem_erase_of_ne (Ne.symm apart)).mpr
  refine ⟨fun session slot found => ?_, fun session slot found => ?_,
    fun slot session => (reverse slot session).trans (Iff.of_eq (congrArg (· = some slot) (map session).symm)), nonempty⟩
  · replace found := (map session).symm.trans found
    split at found
    · cases found
    · obtain ⟨unforgotten, undropped⟩ := spared session slot found ‹_›
      rw [native]
      exact (inv.entries session slot found).imp_right (Or.imp (remains unforgotten) (remains undropped))
  · rw [native] at found
    rcases inv.opened session slot found with entry | listed
    · by_cases leaves : gone session
      · exact .inr (remains (drops session slot) (booked session slot entry leaves found))
      · exact .inl ((map session).trans ((if_neg leaves).trans entry))
    · exact .inr (remains (drops session slot) listed)

theorem index_inv_forget (booked : Booked index (.settle (.forget session))) :
    IndexInv { index.forgetSessionSlot session with pending := index.pending.erase (.forget session) } := by
  rw [SessionIndex.forgetSessionSlot]
  cases found : index.sessionSlotMap.lookup session with
  | none =>
    refine index_inv_dropped inv (fun _ => False) nofun rfl (fun _ => rfl) (fun other slot entry _ => ⟨fun same => ?_, nofun⟩)
      (fun _ _ _ => False.elim)
      inv.reverse inv.nonempty
    cases same
    cases found.symm.trans entry
  | some slot =>
    have set : ∀ at_, (if (index.sessionsOn slot).erase session = ∅ then index.slotSessions.erase slot
        else index.slotSessions.insert slot ((index.sessionsOn slot).erase session)).lookup at_ =
        if at_ = slot then (if (index.sessionsOn slot).erase session = ∅ then none else some ((index.sessionsOn slot).erase session))
        else index.slotSessions.lookup at_ := fun at_ => by
      split
      · exact dict_lookup_erase
      · exact dict_lookup_insert
    refine index_inv_dropped inv (· = session) nofun rfl (fun _ => dict_lookup_erase)
      (fun other _ _ apart => ⟨fun same => apart (Bookkeeping.forget.inj same).symm, nofun⟩) (fun other at_ entry same => ?_)
      (fun at_ other => ?_) fun at_ empty => ?_
    · rw [same] at entry ⊢
      exact booked at_ entry
    · change other ∈ Option.getD _ ∅ ↔ _
      rw [set]
      by_cases here : at_ = slot
      · have held : (if (index.sessionsOn slot).erase session = ∅ then none else some ((index.sessionsOn slot).erase session)).getD ∅ =
            (index.sessionsOn slot).erase session := by
          split
          · exact Eq.symm ‹_›
          · rfl
        rw [if_pos here, held, Finset.mem_erase, inv.reverse, here]
        by_cases same : other = session <;> simp [same]
      · rw [if_neg here]
        refine (inv.reverse at_ other).trans ?_
        by_cases same : other = session
        · rw [if_pos same, same, found]
          simp [Ne.symm here]
        · rw [if_neg same]
    · replace empty := (set at_).symm.trans empty
      split at empty
      · split at empty
        · cases empty
        · exact absurd (Option.some.inj empty) ‹_›
      · exact inv.nonempty at_ empty

theorem index_inv_drop_slot (booked : Booked index (.settle (.dropSlot slot))) :
    IndexInv { index.dropMechCacheForSlot slot with pending := index.pending.erase (.dropSlot slot) } := by
  refine index_inv_dropped inv (fun other => index.sessionSlotMap.lookup other = some slot) nofun rfl
    (fun other => dict_lookup_retain.trans (by simp [inv.reverse])) (fun other at_ entry apart => ⟨nofun, fun same => apart ?_⟩)
    (fun other at_ entry same => ?_) (fun at_ other => ?_) fun at_ empty => ?_
  · rw [entry, (Bookkeeping.dropSlot.inj same)]
  · cases entry.symm.trans same
    exact booked other ((inv.reverse slot other).mpr same)
  · change other ∈ Option.getD ((index.slotSessions.erase slot).lookup at_) ∅ ↔ _
    rw [dict_lookup_erase]
    by_cases here : at_ = slot
    · split <;> simp_all
    · rw [if_neg here]
      refine (inv.reverse at_ other).trans ?_
      split <;> simp_all [Ne.symm here]
  · replace empty := dict_lookup_erase.symm.trans empty
    split at empty
    · cases empty
    · exact inv.nonempty at_ empty

theorem index_inv_step {action : IndexAction} (booked : Booked index action) (stepped : indexStep index action = some next) :
    IndexInv next := by
  cases action with
  | openSession session slot =>
    rw [indexStep] at stepped
    split at stepped <;> cases stepped
    rename_i closed
    refine index_inv_native inv (fun other at_ found => ?_) fun other at_ found => ?_
    · refine .inl (dict_lookup_insert.trans ((if_neg fun same => ?_).trans found))
      rw [same, closed] at found
      cases found
    · replace found := dict_lookup_insert.symm.trans found
      split at found
      · rename_i same
        cases found
        rw [same]
        exact .inr rfl
      · exact .inl found
  | closeSession session =>
    rw [indexStep] at stepped
    split at stepped <;> cases stepped
    refine index_inv_native inv (fun other slot found => ?_) fun other slot found => ?_
    · rcases eq_or_ne other session with rfl | apart
      · exact .inr (.inl rfl)
      · exact .inl (dict_lookup_erase.trans ((if_neg apart).trans found))
    · replace found := dict_lookup_erase.symm.trans found
      split at found
      · cases found
      · exact .inl found
  | closeAllSessions slot =>
    cases stepped
    refine index_inv_native inv (fun other at_ found => ?_) fun other at_ found => ?_
    · rcases eq_or_ne at_ slot with rfl | apart
      · exact .inr (.inr rfl)
      · refine .inl (dict_lookup_retain.trans ((if_pos ?_).trans found))
        simp [found, apart]
    · replace found := dict_lookup_retain.symm.trans found
      split at found
      · exact .inl found
      · cases found
  | settle call =>
    rw [indexStep] at stepped
    split at stepped <;> cases stepped
    cases call with
    | remember session slot => exact index_inv_remember inv booked
    | forget session => exact index_inv_forget inv booked
    | dropSlot slot => exact index_inv_drop_slot inv booked

end Steps

-- In every run that meets the condition, a state without a call between its steps has
-- exactly the provider's sessions in the index, in both directions.
theorem session_index_consistent (actions : List IndexAction) (index : SessionIndex)
    (reached : exec indexStep SessionIndex.new actions = some index)
    (booked : along indexStep Booked SessionIndex.new actions) (quiet : index.pending = []) :
    index.sessionSlotMap = index.native ∧ (∀ slot session, session ∈ index.sessionsOn slot ↔ index.sessionSlotMap.lookup session = some slot) ∧
      ∀ slot, index.slotSessions.lookup slot ≠ some ∅ := by
  have inv := exec_invariant_along indexStep Booked IndexInv (fun _ _ _ inv met stepped => index_inv_step inv met stepped)
    index_inv_new booked reached
  have idle : ∀ {call : Bookkeeping}, call ∉ index.pending := fun {call} member => by
    rw [quiet] at member
    cases member
  refine ⟨Finmap.ext_lookup fun session => Option.ext fun slot => ⟨fun found => ?_, fun found => ?_⟩, inv.reverse, inv.nonempty⟩
  · exact (inv.entries session slot found).resolve_right fun dropped => dropped.elim idle idle
  · exact (inv.opened session slot found).resolve_right idle

def reopened : List IndexAction :=
  [.openSession 7 0, .settle (.remember 7 0), .closeSession 7, .openSession 7 1, .settle (.forget 7), .settle (.remember 7 1)]

theorem session_index_consistent_reopened : ∃ index, exec indexStep SessionIndex.new reopened = some index ∧
    index.sessionSlotMap = index.native ∧ index.native.lookup 7 = some 1 := by
  have booked : along indexStep Booked SessionIndex.new reopened := by decide
  exact ⟨_, rfl, (session_index_consistent reopened _ rfl booked rfl).1, rfl⟩

theorem recycled_session_forgotten : ∃ index,
    exec indexStep SessionIndex.new [.openSession 7 0, .settle (.remember 7 0), .closeSession 7, .openSession 7 0,
      .settle (.remember 7 0), .settle (.forget 7)] =
      some index ∧ index.pending = [] ∧ index.native.lookup 7 = some 0 ∧ index.sessionSlotMap.lookup 7 = none :=
  ⟨_, rfl, rfl, rfl, rfl⟩

end Pkcs11Proxy.Backend
