import Pkcs11Proxy.Lib.Dict
import Pkcs11Proxy.Lib.Exec

namespace Pkcs11Proxy.Server

open Lib

-- Where a request stands in `try_admit_peer`, or in the drop of the guard it was given.
-- A counter is named by its allocation, which its clones share.
inductive PeerPhase where
  | arriving
  | loading (counter : Nat)
  | exchanging (counter current : Nat)
  | admitted (counter : Nat)
  | removing (counter : Nat)
  | refused
  | released
deriving DecidableEq, Repr

def PeerPhase.counter : PeerPhase → Option Nat
  | .loading counter | .exchanging counter _ | .admitted counter | .removing counter => some counter
  | .arriving | .refused | .released => none

structure PeerRequest (Peer : Type) where
  peer : Peer
  phase : PeerPhase

structure PeerTable (Peer : Type) where
  inFlight : Dict Peer Nat
  counters : List Nat
  requests : List (PeerRequest Peer)

inductive PeerAction (Peer : Type) where
  | arrive (peer : Peer)
  | advance (k : Nat) (spurious : Bool)

variable {Peer : Type} [DecidableEq Peer]

namespace PeerTable

def new : PeerTable Peer := ⟨∅, [], []⟩

def count (table : PeerTable Peer) (counter : Nat) : Nat := table.counters.getD counter 0

def store (table : PeerTable Peer) (counter value : Nat) : PeerTable Peer :=
  { table with counters := table.counters.set counter value }

def isLive (peer : Peer) (request : PeerRequest Peer) : Nat :=
  match request.phase with
  | .admitted _ => if request.peer = peer then 1 else 0
  | _ => 0

def liveGuards (table : PeerTable Peer) (peer : Peer) : Nat := total (isLive peer) table.requests

end PeerTable

section

variable (maxInFlight : Nat)

-- One operation on the map or on a counter. `compare_exchange_weak` may fail although
-- the counter still has the value that was read.
def advancePeer (table : PeerTable Peer) (peer : Peer) (spurious : Bool) : PeerPhase → Option (PeerTable Peer × PeerPhase)
  | .arriving =>
    match table.inFlight.lookup peer with
    | some counter => some (table, .loading counter)
    | none =>
      some ({ table with inFlight := table.inFlight.insert peer table.counters.length, counters := table.counters ++ [0] },
        .loading table.counters.length)
  | .loading counter => some (table, .exchanging counter (table.count counter))
  | .exchanging counter current =>
    if maxInFlight ≤ current then some (table, .refused)
    else if table.count counter = current ∧ spurious = false then some (table.store counter (current + 1), .admitted counter)
    else some (table, .exchanging counter (table.count counter))
  | .admitted counter =>
    some (table.store counter (table.count counter - 1), if table.count counter = 1 then .removing counter else .released)
  | .removing counter =>
    if table.inFlight.lookup peer = some counter ∧ table.count counter = 0 then
      some ({ table with inFlight := table.inFlight.erase peer }, .released)
    else some (table, .released)
  | .refused | .released => none

def peerStep (table : PeerTable Peer) : PeerAction Peer → Option (PeerTable Peer)
  | .arrive peer => some { table with requests := table.requests ++ [⟨peer, .arriving⟩] }
  | .advance k spurious =>
    table.requests[k]?.bind fun request =>
      (advancePeer maxInFlight table request.peer spurious request.phase).map fun done =>
        { done.1 with requests := table.requests.set k { request with phase := done.2 } }

def incrementsMapped (table : PeerTable Peer) : PeerAction Peer → Bool
  | .arrive _ => true
  | .advance k spurious =>
    table.requests[k]?.all fun request =>
      match request.phase with
      | .exchanging counter current =>
        decide (maxInFlight ≤ current) || decide (table.count counter ≠ current) || spurious ||
          decide (table.inFlight.lookup request.peer = some counter)
      | _ => true

def PeerRequest.holds (counter : Nat) (request : PeerRequest Peer) : Nat := if request.phase = .admitted counter then 1 else 0

-- A counter counts the guards that share it. A guard keeps its counter in the map,
-- since only a counter that counts none is removed.
structure PeerInv (table : PeerTable Peer) : Prop where
  counted : ∀ counter, table.count counter = total (PeerRequest.holds counter) table.requests
  capped : ∀ counter, table.count counter ≤ maxInFlight
  mapped : ∀ request ∈ table.requests, ∀ counter, request.phase = .admitted counter → table.inFlight.lookup request.peer = some counter
  named : ∀ request ∈ table.requests, ∀ counter, request.phase.counter = some counter → counter < table.counters.length
  entries : ∀ peer counter, table.inFlight.lookup peer = some counter → counter < table.counters.length

theorem peer_inv_new : PeerInv maxInFlight (PeerTable.new : PeerTable Peer) where
  counted _ := rfl
  capped _ := Nat.zero_le _
  mapped _ member := by cases member
  named _ member := by cases member
  entries peer counter found := by
    cases found

omit [DecidableEq Peer] in
theorem count_store (table : PeerTable Peer) (counter value other : Nat) (known : counter < table.counters.length) :
    (table.store counter value).count other = if other = counter then value else table.count other := by
  rw [PeerTable.store, PeerTable.count, PeerTable.count, List.getD_eq_getElem?_getD, List.getD_eq_getElem?_getD]
  by_cases same : other = counter
  · subst same
    simp [known]
  · rw [List.getElem?_set_ne (Ne.symm same), if_neg same]

variable {table : PeerTable Peer} {k : Nat} {request : PeerRequest Peer} {next : PeerTable Peer}

theorem peer_inv_set (inv : PeerInv maxInFlight table) {after : PeerRequest Peer}
    (here : table.requests[k]? = some request) (placed : next.requests = table.requests.set k after)
    (counts : ∀ counter, next.count counter + request.holds counter = table.count counter + after.holds counter)
    (capped : ∀ counter, next.count counter ≤ maxInFlight)
    (own : ∀ counter, after.phase = .admitted counter → next.inFlight.lookup after.peer = some counter)
    (kept : ∀ other ∈ table.requests, ∀ counter, other.phase = .admitted counter → next.inFlight.lookup other.peer = some counter)
    (named : ∀ counter, after.phase.counter = some counter → counter < next.counters.length)
    (grows : table.counters.length ≤ next.counters.length)
    (entries : ∀ peer counter, next.inFlight.lookup peer = some counter → counter < next.counters.length) : PeerInv maxInFlight next where
  counted counter := by
    have weight := total_set (PeerRequest.holds counter) after here
    have before := inv.counted counter
    have moved := counts counter
    rw [placed]
    omega
  capped := capped
  mapped := by
    rw [placed]
    exact forall_set kept own
  named := by
    rw [placed]
    exact forall_set (fun other old counter phase => Nat.lt_of_lt_of_le (inv.named other old counter phase) grows) named
  entries := entries

variable {phase : PeerPhase}

theorem peer_inv_quiet (inv : PeerInv maxInFlight table)
    (here : table.requests[k]? = some request) (empty : ∀ counter, request.phase ≠ .admitted counter)
    (refused : ∀ counter, phase ≠ .admitted counter) (named : ∀ counter, phase.counter = some counter → counter < table.counters.length) :
    PeerInv maxInFlight { table with requests := table.requests.set k { request with phase := phase } } := by
  apply peer_inv_set maxInFlight inv here rfl
  · intro counter
    simp only [PeerRequest.holds, if_neg (empty counter), if_neg (refused counter)]
    rfl
  · exact inv.capped
  · intro counter admitted
    exact absurd admitted (refused counter)
  · exact inv.mapped
  · exact named
  · exact Nat.le_refl _
  · exact inv.entries

variable {peer : Peer}

theorem peer_inv_arriving (inv : PeerInv maxInFlight table) (vacant : table.inFlight.lookup peer = none)
    (here : table.requests[k]? = some ⟨peer, .arriving⟩) :
    PeerInv maxInFlight ⟨table.inFlight.insert peer table.counters.length, table.counters ++ [0],
      table.requests.set k ⟨peer, .loading table.counters.length⟩⟩ := by
  have same : ∀ counter, PeerTable.count (⟨table.inFlight.insert peer table.counters.length, table.counters ++ [0],
      table.requests.set k ⟨peer, .loading table.counters.length⟩⟩ : PeerTable Peer) counter = table.count counter := by
    intro counter
    simp only [PeerTable.count, List.getD_eq_getElem?_getD]
    rcases Nat.lt_trichotomy counter table.counters.length with old | rfl | beyond
    · rw [List.getElem?_append_left old]
    · simp
    · rw [List.getElem?_eq_none (by simp; omega), List.getElem?_eq_none (by omega)]
  apply peer_inv_set maxInFlight inv here rfl
  · intro counter
    rw [same]
    rfl
  · intro counter
    rw [same]
    exact inv.capped counter
  · intro counter admitted
    cases admitted
  · intro other member counter admitted
    have found := inv.mapped other member counter admitted
    rw [dict_lookup_insert, if_neg]
    · exact found
    · intro mine
      rw [mine, vacant] at found
      cases found
  · intro counter named
    cases named
    simp
  · simp
  · intro other counter found
    rw [dict_lookup_insert] at found
    simp only [List.length_append, List.length_singleton]
    split at found
    · cases found
      exact Nat.lt_succ_self _
    · exact Nat.lt_succ_of_lt (inv.entries other counter found)

variable {counter : Nat}

section

variable (inv : PeerInv maxInFlight table)

include inv

theorem peer_inv_admitted (here : table.requests[k]? = some ⟨peer, .exchanging counter (table.count counter)⟩)
    (room : table.count counter < maxInFlight)
    (current : table.inFlight.lookup peer = some counter) :
    PeerInv maxInFlight { table.store counter (table.count counter + 1) with requests := table.requests.set k ⟨peer, .admitted counter⟩ } := by
  have known := inv.entries peer counter current
  have changed := count_store table counter (table.count counter + 1)
  apply peer_inv_set maxInFlight inv here rfl
  · intro other
    change (table.store counter (table.count counter + 1)).count other + _ = _
    rw [changed other known]
    by_cases same : other = counter
    · simp [PeerRequest.holds, same]
    · simp [PeerRequest.holds, same, Ne.symm same]
  · intro other
    change (table.store counter (table.count counter + 1)).count other ≤ _
    rw [changed other known]
    split
    · exact room
    · exact inv.capped other
  · intro other admitted
    cases admitted
    exact current
  · exact inv.mapped
  · intro other named
    cases named
    simpa [PeerTable.store] using known
  · simp [PeerTable.store]
  · intro other entry found
    simpa [PeerTable.store] using inv.entries other entry found

theorem peer_inv_released (here : table.requests[k]? = some ⟨peer, .admitted counter⟩) (left : ∀ other, phase ≠ .admitted other)
    (named : ∀ other, phase.counter = some other → other = counter) :
    PeerInv maxInFlight { table.store counter (table.count counter - 1) with requests := table.requests.set k ⟨peer, phase⟩ } := by
  have known := inv.named _ (List.mem_of_getElem? here) counter rfl
  have changed := count_store table counter (table.count counter - 1)
  have held : 1 ≤ table.count counter := by
    have weight := weight_le_total (PeerRequest.holds counter) (List.mem_of_getElem? here)
    rw [inv.counted]
    simpa [PeerRequest.holds] using weight
  apply peer_inv_set maxInFlight inv here rfl
  · intro other
    change (table.store counter (table.count counter - 1)).count other + _ = _
    rw [changed other known]
    by_cases same : other = counter
    · subst same
      simp [PeerRequest.holds, left]
      omega
    · simp [PeerRequest.holds, left, same, Ne.symm same]
  · intro other
    change (table.store counter (table.count counter - 1)).count other ≤ _
    rw [changed other known]
    have before := inv.capped other
    split
    · rename_i same
      rw [same] at before
      omega
    · exact before
  · intro other admitted
    exact absurd admitted (left other)
  · exact inv.mapped
  · intro other mine
    rw [named other mine]
    simpa [PeerTable.store] using known
  · simp [PeerTable.store]
  · intro other entry found
    simpa [PeerTable.store] using inv.entries other entry found

theorem peer_inv_removed (here : table.requests[k]? = some ⟨peer, .removing counter⟩) (current : table.inFlight.lookup peer = some counter)
    (drained : table.count counter = 0) :
    PeerInv maxInFlight ⟨table.inFlight.erase peer, table.counters, table.requests.set k ⟨peer, .released⟩⟩ := by
  apply peer_inv_set maxInFlight inv here rfl
  · intro other
    rfl
  · exact inv.capped
  · intro other admitted
    cases admitted
  · intro other member held admitted
    have found := inv.mapped other member held admitted
    rw [dict_lookup_erase, if_neg]
    · exact found
    · intro mine
      rw [mine, current] at found
      cases found
      have weight := weight_le_total (PeerRequest.holds counter) member
      rw [← inv.counted, drained] at weight
      simp [PeerRequest.holds, admitted] at weight
  · intro other named
    cases named
  · exact Nat.le_refl _
  · intro other entry found
    rw [dict_lookup_erase] at found
    split at found
    · cases found
    · exact inv.entries other entry found

theorem peer_inv_step {action : PeerAction Peer}
    (allowed : incrementsMapped maxInFlight table action = true) (taken : peerStep maxInFlight table action = some next) :
    PeerInv maxInFlight next := by
  cases action with
  | arrive peer =>
    cases taken
    constructor
    · intro counter
      rw [total_append, total_cons, total_nil]
      exact inv.counted counter
    · exact inv.capped
    · intro request member counter admitted
      rcases List.mem_append.mp member with old | added
      · exact inv.mapped request old counter admitted
      · cases List.mem_singleton.mp added
        cases admitted
    · intro request member counter named
      rcases List.mem_append.mp member with old | added
      · exact inv.named request old counter named
      · cases List.mem_singleton.mp added
        cases named
    · exact inv.entries
  | advance k spurious =>
    obtain ⟨⟨peer, phase⟩, here, taken⟩ := Option.bind_eq_some_iff.mp taken
    obtain ⟨⟨moved, after⟩, advanced, rfl⟩ := Option.map_eq_some_iff.mp taken
    have names := inv.named _ (List.mem_of_getElem? here)
    cases phase with
    | arriving =>
      cases found : table.inFlight.lookup peer with
      | some counter =>
        simp only [advancePeer, found] at advanced
        cases advanced
        apply peer_inv_quiet maxInFlight inv here (by simp) (by simp)
        intro other named
        cases named
        exact inv.entries peer counter found
      | none =>
        simp only [advancePeer, found] at advanced
        cases advanced
        exact peer_inv_arriving maxInFlight inv found here
    | loading counter =>
      cases advanced
      exact peer_inv_quiet maxInFlight inv here (by simp) (by simp) names
    | exchanging counter current =>
      simp only [incrementsMapped, here, Option.all_some, Bool.or_eq_true, decide_eq_true_eq] at allowed
      simp only [advancePeer] at advanced
      by_cases full : maxInFlight ≤ current
      · rw [if_pos full] at advanced
        cases advanced
        exact peer_inv_quiet maxInFlight inv here (by simp) (by simp) (by simp [PeerPhase.counter])
      · rw [if_neg full] at advanced
        split at advanced
        · rename_i wins
          cases advanced
          obtain ⟨rfl, rfl⟩ := wins
          exact peer_inv_admitted maxInFlight inv here (by omega) (by simpa [full] using allowed)
        · cases advanced
          exact peer_inv_quiet maxInFlight inv here (by simp) (by simp) names
    | admitted counter =>
      cases advanced
      apply peer_inv_released maxInFlight inv here
      · split <;> simp
      · intro other named
        split at named <;> cases named
        rfl
    | removing counter =>
      simp only [advancePeer] at advanced
      split at advanced
      · rename_i drained
        cases advanced
        exact peer_inv_removed maxInFlight inv here drained.1 drained.2
      · cases advanced
        exact peer_inv_quiet maxInFlight inv here (by simp) (by simp) (by simp [PeerPhase.counter])
    | refused | released => cases advanced

theorem live_guards_le : table.liveGuards peer ≤ maxInFlight := by
  cases found : table.inFlight.lookup peer with
  | none =>
    have none : total (PeerTable.isLive peer) table.requests ≤ total (fun _ => 0) table.requests := by
      apply total_le_total
      intro request member
      rw [PeerTable.isLive]
      split
      · rename_i counter phase
        rw [if_neg]
        intro mine
        have mapped := inv.mapped request member counter phase
        rw [mine, found] at mapped
        cases mapped
      · exact Nat.le_refl _
    have zero : total (fun _ => 0) table.requests = 0 := by simp [total]
    rw [PeerTable.liveGuards]
    omega
  | some counter =>
    have shared : total (PeerTable.isLive peer) table.requests ≤ total (PeerRequest.holds counter) table.requests := by
      apply total_le_total
      intro request member
      rw [PeerTable.isLive]
      split
      · rename_i own phase
        split
        · rename_i mine
          have mapped := inv.mapped request member own phase
          rw [mine, found] at mapped
          cases mapped
          simp [PeerRequest.holds, phase]
        · exact Nat.zero_le _
      · exact Nat.zero_le _
    have capped := inv.capped counter
    rw [inv.counted] at capped
    exact Nat.le_trans shared capped

end

theorem peer_admission_capped (actions : List (PeerAction Peer)) (final : PeerTable Peer)
    (meets : along (peerStep maxInFlight) (fun table action => incrementsMapped maxInFlight table action = true) PeerTable.new actions)
    (ran : exec (peerStep maxInFlight) PeerTable.new actions = some final) (peer : Peer) : final.liveGuards peer ≤ maxInFlight := by
  have inv := exec_invariant_along (peerStep maxInFlight) _ (PeerInv maxInFlight)
    (fun table action next inv allowed taken => peer_inv_step maxInFlight inv allowed taken) (peer_inv_new maxInFlight) meets ran
  exact live_guards_le maxInFlight inv

end

def guardAfterGuard : List (PeerAction Nat) :=
  [.arrive 7, .advance 0 false, .advance 0 false, .advance 0 false, .advance 0 false, .advance 0 false,
    .arrive 7, .advance 1 false, .advance 1 false, .advance 1 true, .advance 1 false]

theorem peer_admission_capped_renewed :
    along (peerStep 1) (fun table action => incrementsMapped 1 table action = true) PeerTable.new guardAfterGuard ∧
      ∃ final, exec (peerStep 1) PeerTable.new guardAfterGuard = some final ∧ final.liveGuards 7 = 1 ∧ final.liveGuards 7 ≤ 1 := by
  have meets : along (peerStep 1) (fun table action => incrementsMapped 1 table action = true) PeerTable.new guardAfterGuard := by
    decide +kernel
  have runs : ((exec (peerStep 1) PeerTable.new guardAfterGuard).map fun final => final.liveGuards 7) = some 1 := by
    decide +kernel
  obtain ⟨final, ran, live⟩ := Option.map_eq_some_iff.mp runs
  exact ⟨meets, final, ran, live, peer_admission_capped 1 guardAfterGuard final meets ran 7⟩

def removedUnderClone : List (PeerAction Nat) :=
  [.arrive 7, .advance 0 false, .advance 0 false, .advance 0 false, .arrive 7, .advance 1 false, .advance 0 false, .advance 0 false,
    .advance 1 false, .advance 1 false, .arrive 7, .advance 2 false, .advance 2 false, .advance 2 false]

theorem removed_counter_exceeds_cap :
    ∃ final, exec (peerStep 1) PeerTable.new removedUnderClone = some final ∧ ¬ final.liveGuards 7 ≤ 1 := by
  have runs : ((exec (peerStep 1) PeerTable.new removedUnderClone).map fun final => final.liveGuards 7) = some 2 := by
    decide +kernel
  obtain ⟨final, ran, live⟩ := Option.map_eq_some_iff.mp runs
  refine ⟨final, ran, ?_⟩
  rw [live]
  decide

end Pkcs11Proxy.Server
