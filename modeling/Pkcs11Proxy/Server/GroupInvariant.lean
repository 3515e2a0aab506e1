import Pkcs11Proxy.Lib.Exec
import Pkcs11Proxy.Server.ConnectionGroups

namespace Pkcs11Proxy.Server

open Lib

def TrackedStream.liveIn (g : Nat) (stream : TrackedStream) : Nat := if stream.state = g ∧ stream.phase = .live then 1 else 0

-- Where a group stands: in the map and counted, removed and about to be marked,
-- owned by one peerless stream, or closed.
inductive GroupOk (byPeer : Dict String Nat) (streams : List TrackedStream) (g : Nat) (group : ConnectionState) : Prop where
  | registered (key : String) (mapped : ∀ other, byPeer.lookup other = some g ↔ other = key) (unclosed : group.closed = false)
      (keyed : ∀ stream ∈ streams, stream.state = g → stream.peerKey = some key ∧ stream.phase ≠ .marking)
      (counted : group.liveConnections = total (TrackedStream.liveIn g) streams)
      (held : 0 < group.liveConnections ∨ ∃ stream ∈ streams, stream.state = g ∧ stream.phase = .removing)
  | removed (unmapped : ∀ key, byPeer.lookup key ≠ some g) (quiet : ∀ stream ∈ streams, stream.state = g → stream.phase ≠ .live)
      (marker : ∃ stream ∈ streams, stream.state = g ∧ stream.phase = .marking)
  | peerless (unmapped : ∀ key, byPeer.lookup key ≠ some g) (unclosed : group.closed = false) (k : Nat)
      (owner : streams[k]? = some ⟨g, none, .live⟩) (alone : ∀ (j : Nat) stream, streams[j]? = some stream → stream.state = g → j = k)
  | closed (unmapped : ∀ key, byPeer.lookup key ≠ some g) (marked : group.closed = true)
      (quiet : ∀ stream ∈ streams, stream.state = g → stream.phase ≠ .live)

structure GroupsInv (registry : ConnectionRegistry) (streams : List TrackedStream) : Prop where
  known : ∀ stream ∈ streams, stream.state < registry.groups.length
  named : ∀ key g, registry.lookup key = some g → g < registry.groups.length
  groups : ∀ (g : Nat) group, registry.groups[g]? = some group → GroupOk registry.byPeer streams g group

structure SameAt (g : Nat) (streams streams' : List TrackedStream) : Prop where
  slots : ∀ (j : Nat) stream, stream.state = g → (streams'[j]? = some stream ↔ streams[j]? = some stream)
  count : total (TrackedStream.liveIn g) streams' = total (TrackedStream.liveIn g) streams

variable {streams' : List TrackedStream}

theorem same_at_mem {g : Nat} {streams : List TrackedStream} (same : SameAt g streams streams') (stream : TrackedStream)
    (inside : stream.state = g) : stream ∈ streams' ↔ stream ∈ streams := by
  rw [List.mem_iff_getElem?, List.mem_iff_getElem?]
  exact exists_congr fun j => same.slots j stream inside

variable {g : Nat} {key : String} {system next : ConnectionSystem} {peerKey : Option String}

variable {stream : TrackedStream}

theorem live_in_other (other : stream.state ≠ g) : stream.liveIn g = 0 :=
  if_neg fun live => other live.1

variable {k : Nat} {streams : List TrackedStream}

theorem same_at_set {before after : TrackedStream} (held : streams[k]? = some before)
    (leaves : before.state ≠ g) (enters : after.state ≠ g) : SameAt g streams (streams.set k after) where
  slots j stream inside := by
    by_cases same : j = k
    · subst same
      rw [List.getElem?_set_self' , held]
      constructor
      · intro placed
        cases placed
        exact absurd inside enters
      · intro kept
        cases kept
        exact absurd inside leaves
    · rw [List.getElem?_set_ne (Ne.symm same)]
  count := by
    have weight := total_set (TrackedStream.liveIn g) after held
    rw [live_in_other leaves, live_in_other enters] at weight
    exact weight

theorem same_at_added {added : TrackedStream} (outside : added.state ≠ g) :
    SameAt g streams (streams ++ [added]) where
  slots j stream inside := by
    constructor
    · intro held
      rcases slot_added_cases held with ⟨-, rfl⟩ | old
      · exact absurd inside outside
      · exact old
    · intro held
      rw [List.getElem?_append_left (List.getElem?_eq_some_iff.mp held).1]
      exact held
  count := by
    rw [total_append, total_cons, total_nil, live_in_other outside]
    rfl

variable {byPeer : Dict String Nat} {group : ConnectionState}

theorem group_ok_frame {byPeer' : Dict String Nat}
    (names : ∀ key, byPeer'.lookup key = some g ↔ byPeer.lookup key = some g) (same : SameAt g streams streams')
    (ok : GroupOk byPeer streams g group) : GroupOk byPeer' streams' g group := by
  have members := same_at_mem same
  have unnamed : (∀ key, byPeer.lookup key ≠ some g) → ∀ key, byPeer'.lookup key ≠ some g :=
    fun unmapped key named => unmapped key ((names key).mp named)
  cases ok with
  | registered key mapped unclosed keyed counted held =>
    refine .registered key (fun other => (names other).trans (mapped other)) unclosed
      (fun stream member inside => keyed stream ((members stream inside).mp member) inside) (counted.trans same.count.symm)
      (held.imp id ?_)
    rintro ⟨stream, member, inside, removing⟩
    exact ⟨stream, (members stream inside).mpr member, inside, removing⟩
  | removed unmapped quiet marker =>
    obtain ⟨stream, member, inside, marking⟩ := marker
    exact .removed (unnamed unmapped) (fun other member inside => quiet other ((members other inside).mp member) inside)
      ⟨stream, (members stream inside).mpr member, inside, marking⟩
  | peerless unmapped unclosed k owner alone =>
    exact .peerless (unnamed unmapped) unclosed k ((same.slots k _ rfl).mpr owner)
      fun j stream held inside => alone j stream ((same.slots j stream inside).mp held) inside
  | closed unmapped marked quiet =>
    exact .closed (unnamed unmapped) marked fun stream member inside => quiet stream ((members stream inside).mp member) inside

variable {registry : ConnectionRegistry}

theorem groups_inv_at {registry' : ConnectionRegistry}
    (inv : GroupsInv registry streams) (grows : registry.groups.length ≤ registry'.groups.length) (bound : g < registry'.groups.length)
    (others : ∀ (j : Nat) group, j ≠ g → registry'.groups[j]? = some group → registry.groups[j]? = some group)
    (names : ∀ key j, j ≠ g → (registry'.lookup key = some j ↔ registry.lookup key = some j))
    (same : ∀ j, j ≠ g → SameAt j streams streams')
    (own : ∀ group, registry'.groups[g]? = some group → GroupOk registry'.byPeer streams' g group) : GroupsInv registry' streams' where
  known stream member := by
    by_cases inside : stream.state = g
    · rw [inside]
      exact bound
    · have old := (same_at_mem (same _ inside) stream rfl).mp member
      exact Nat.lt_of_lt_of_le (inv.known stream old) grows
  named key j found := by
    by_cases inside : j = g
    · rw [inside]
      exact bound
    · exact Nat.lt_of_lt_of_le (inv.named key j ((names key j inside).mp found)) grows
  groups j group held := by
    by_cases inside : j = g
    · subst inside
      exact own group held
    · exact group_ok_frame (fun key => names key j inside) (same j inside)
        (inv.groups j group (others j group inside held))

theorem on_group_cases {j : Nat} {update : ConnectionState → ConnectionState} (held : (registry.onGroup g update).groups[j]? = some group) :
    (j = g ∧ ∃ old, registry.groups[g]? = some old ∧ group = update old) ∨ (j ≠ g ∧ registry.groups[j]? = some group) := by
  rw [ConnectionRegistry.onGroup, List.getElem?_modify] at held
  obtain ⟨old, found, rfl⟩ := Option.map_eq_some_iff.mp held
  by_cases same : j = g
  · subst same
    rw [if_pos rfl]
    exact .inl ⟨rfl, old, found, rfl⟩
  · rw [if_neg (Ne.symm same)]
    exact .inr ⟨same, found⟩

theorem on_group_length (registry : ConnectionRegistry) (g : Nat) (update : ConnectionState → ConnectionState) :
    (registry.onGroup g update).groups.length = registry.groups.length :=
  List.length_modify update registry.groups g

theorem groups_inv_stream (byPeer : Dict String Nat) (phase : StreamPhase) (update : ConnectionState → ConnectionState)
    (inv : GroupsInv registry streams)
    (held : streams[k]? = some stream) (names : ∀ key j, j ≠ stream.state → (byPeer.lookup key = some j ↔ registry.lookup key = some j))
    (own : ∀ group, registry.groups[stream.state]? = some group → GroupOk registry.byPeer streams stream.state group →
      GroupOk byPeer (streams.set k { stream with phase := phase }) stream.state (update group)) :
    GroupsInv { registry.onGroup stream.state update with byPeer := byPeer } (streams.set k { stream with phase := phase }) := by
  have bound := inv.known stream (List.mem_of_getElem? held)
  refine groups_inv_at inv ?_ ?_ ?_ names ?_ ?_
  · exact Nat.le_of_eq (on_group_length registry _ update).symm
  · exact Nat.lt_of_lt_of_eq bound (on_group_length registry _ update).symm
  · intro j group other found
    rcases on_group_cases found with ⟨same, -⟩ | ⟨-, old⟩
    · exact absurd same other
    · exact old
  · exact fun j other => same_at_set held (Ne.symm other) (Ne.symm other)
  · intro group found
    rcases on_group_cases found with ⟨-, old, before, rfl⟩ | ⟨other, -⟩
    · exact own old before (inv.groups _ old before)
    · exact absurd rfl other

section Moves

variable {byPeer : Dict String Nat} (streams : List TrackedStream) (k : Nat) (stream : TrackedStream) {group : ConnectionState}
variable (held : streams[k]? = some stream) (ok : GroupOk byPeer streams stream.state group)

theorem moved_quiet (g : Nat) (phase : StreamPhase) (still : phase ≠ .live)
    (quiet : ∀ other ∈ streams, other.state = g → other.phase ≠ .live) :
    ∀ other ∈ streams.set k { stream with phase := phase }, other.state = g → other.phase ≠ .live :=
  forall_set quiet fun _ => still

include held

theorem moved_kept {phase : StreamPhase} {other : TrackedStream} (member : other ∈ streams) (differs : other.phase ≠ stream.phase) :
    other ∈ streams.set k { stream with phase := phase } := by
  obtain ⟨j, at_j⟩ := List.mem_iff_getElem?.mp member
  refine slot_kept ?_ at_j
  rintro rfl
  cases held.symm.trans at_j
  exact differs rfl

theorem peerless_owner {k' : Nat} (owner : streams[k']? = some ⟨stream.state, none, .live⟩)
    (alone : ∀ (j : Nat) other, streams[j]? = some other → other.state = stream.state → j = k') :
    stream.peerKey = none ∧ stream.phase = .live := by
  cases alone k stream held rfl
  rw [owner, Option.some.injEq] at held
  rw [← held]
  exact ⟨rfl, rfl⟩

include ok

theorem live_registered (live : stream.phase = .live) (keyed : stream.peerKey = some key) :
    (∀ other, byPeer.lookup other = some stream.state ↔ other = key) ∧ group.closed = false ∧
      (∀ other ∈ streams, other.state = stream.state → other.peerKey = some key ∧ other.phase ≠ .marking) ∧
      group.liveConnections = total (TrackedStream.liveIn stream.state) streams := by
  have member := List.mem_of_getElem? held
  cases ok with
  | registered key' mapped unclosed keyed' counted _ =>
    cases keyed.symm.trans (keyed' stream member rfl).1
    exact ⟨mapped, unclosed, keyed', counted⟩
  | removed _ quiet _ | closed _ _ quiet => exact absurd live (quiet stream member rfl)
  | peerless _ _ k' owner alone => cases keyed.symm.trans (peerless_owner streams k stream held owner alone).1

theorem peerless_closed (live : stream.phase = .live) (unkeyed : stream.peerKey = none) :
    GroupOk byPeer (streams.set k { stream with phase := .dropped }) stream.state group.markClosed := by
  have member := List.mem_of_getElem? held
  cases ok with
  | registered key mapped unclosed keyed counted _ =>
    rw [(keyed stream member rfl).1] at unkeyed
    cases unkeyed
  | removed _ quiet _ | closed _ _ quiet => exact absurd live (quiet stream member rfl)
  | peerless unmapped _ k' owner alone =>
    refine .closed unmapped rfl fun other member inside => ?_
    rcases mem_set_cases member with rfl | ⟨j, different, old⟩
    · intro impossible
      cases impossible
    · cases alone k stream held rfl
      exact absurd (alone j other old inside) different

theorem stream_left (live : stream.phase = .live) (keyed : stream.peerKey = some key) :
    GroupOk byPeer (streams.set k { stream with phase := if group.leaveIsLast.2 then .removing else .dropped }) stream.state
      group.leaveIsLast.1 := by
  obtain ⟨mapped, unclosed, peers, counted⟩ := live_registered streams k stream held ok live keyed
  have mine : stream.liveIn stream.state = 1 := if_pos ⟨rfl, live⟩
  have weight := total_set (TrackedStream.liveIn stream.state)
    { stream with phase := if group.leaveIsLast.2 then .removing else .dropped } held
  have gone : ({ stream with phase := if group.leaveIsLast.2 then .removing else .dropped } : TrackedStream).liveIn stream.state = 0 := by
    refine if_neg fun still => ?_
    have phase := still.2
    split at phase <;> cases phase
  have left : group.leaveIsLast = ({ group with liveConnections := group.liveConnections - 1 }, group.liveConnections == 1) :=
    if_neg (by omega)
  refine .registered key mapped ?_ (forall_set peers fun _ => ⟨keyed, ?_⟩) ?_ ?_
  · rw [left]
    exact unclosed
  · split <;> exact nofun
  · rw [left] at weight ⊢
    rw [left] at gone
    change group.liveConnections - 1 = _
    omega
  · rw [left]
    by_cases last : group.liveConnections = 1
    · refine .inr ⟨_, slot_placed held, rfl, ?_⟩
      simp [last]
    · refine .inl ?_
      change 0 < group.liveConnections - 1
      omega

theorem stream_removed (mapped : byPeer.lookup key = some stream.state) (empty : group.liveConnections = 0) :
    GroupOk (byPeer.erase key) (streams.set k { stream with phase := .marking }) stream.state group := by
  cases ok with
  | registered key' names unclosed keyed counted _ =>
    cases (names key).mp mapped
    refine .removed (fun other named => ?_) ?_ ⟨_, slot_placed held, rfl, rfl⟩
    · rw [dict_lookup_erase] at named
      split at named
      · cases named
      · rename_i different
        exact different ((names other).mp named)
    · refine moved_quiet streams k stream stream.state .marking nofun fun other member inside live => ?_
      have weight := weight_le_total (TrackedStream.liveIn stream.state) member
      rw [← counted, empty, TrackedStream.liveIn, if_pos ⟨inside, live⟩] at weight
      cases weight
  | removed unmapped _ _ | peerless unmapped _ _ _ _ | closed unmapped _ _ => exact absurd mapped (unmapped key)

theorem stream_spared (removing : stream.phase = .removing) (keyed : stream.peerKey = some key)
    (spared : ¬ (byPeer.lookup key = some stream.state ∧ group.liveConnections = 0)) :
    GroupOk byPeer (streams.set k { stream with phase := .dropped }) stream.state group := by
  have member := List.mem_of_getElem? held
  have quietly := moved_quiet streams k stream stream.state .dropped nofun
  cases ok with
  | registered key' names unclosed peers counted _ =>
    cases keyed.symm.trans (peers stream member rfl).1
    have alive : group.liveConnections ≠ 0 := fun empty => spared ⟨(names key).mpr rfl, empty⟩
    refine .registered key names unclosed (forall_set peers fun _ => ⟨keyed, nofun⟩) ?_
      (.inl (Nat.pos_of_ne_zero alive))
    · have weight := total_set (TrackedStream.liveIn stream.state) { stream with phase := .dropped } held
      have before : stream.liveIn stream.state = 0 := if_neg fun live => by rw [removing] at live; cases live.2
      have after : ({ stream with phase := .dropped } : TrackedStream).liveIn stream.state = 0 := if_neg fun live => by cases live.2
      omega
  | removed unmapped quiet marker =>
    obtain ⟨other, inside, at_, marking⟩ := marker
    refine .removed unmapped (quietly quiet) ⟨other, moved_kept streams k stream held inside ?_, at_, marking⟩
    rw [marking, removing]
    exact nofun
  | peerless _ _ k' owner alone => cases keyed.symm.trans (peerless_owner streams k stream held owner alone).1
  | closed unmapped marked quiet => exact .closed unmapped marked (quietly quiet)

theorem stream_marked (marking : stream.phase = .marking) :
    GroupOk byPeer (streams.set k { stream with phase := .dropped }) stream.state group.markClosed := by
  have member := List.mem_of_getElem? held
  have quietly := moved_quiet streams k stream stream.state .dropped nofun
  cases ok with
  | registered key names unclosed peers counted _ => exact absurd marking (peers stream member rfl).2
  | removed unmapped quiet _ | closed unmapped _ quiet => exact .closed unmapped rfl (quietly quiet)
  | peerless _ _ k' owner alone => cases marking.symm.trans (peerless_owner streams k stream held owner alone).2

end Moves

theorem stream_group (inv : GroupsInv registry streams) (held : streams[k]? = some stream) :
    ∃ group, registry.groups[stream.state]? = some group ∧ GroupOk registry.byPeer streams stream.state group := by
  have found := List.getElem?_eq_getElem (inv.known stream (List.mem_of_getElem? held))
  exact ⟨_, found, inv.groups _ _ found⟩

section Drop

variable {registry : ConnectionRegistry} {streams : List TrackedStream} (inv : GroupsInv registry streams)
variable {k : Nat} {stream : TrackedStream} (held : streams[k]? = some stream)

include inv held

theorem groups_inv_leave (live : stream.phase = .live) (keyed : stream.peerKey = some key) :
    GroupsInv (registry.leave key stream.state).1
      (streams.set k { stream with phase := if (registry.leave key stream.state).2 then .removing else .dropped }) := by
  obtain ⟨group, found, ok⟩ := stream_group inv held
  obtain ⟨mapped, -, -, -⟩ := live_registered streams k stream held ok live keyed
  have left : registry.leave key stream.state = (registry.onGroup stream.state fun _ => group.leaveIsLast.1, group.leaveIsLast.2) := by
    rw [ConnectionRegistry.leave, if_pos (show registry.lookup key = some stream.state from (mapped key).mpr rfl), found]
  rw [left]
  refine groups_inv_stream registry.byPeer _ _ inv held (fun _ _ _ => Iff.rfl) fun other same ok => ?_
  cases found.symm.trans same
  exact stream_left streams k stream held ok live keyed

theorem groups_inv_remove (removing : stream.phase = .removing) (keyed : stream.peerKey = some key) :
    GroupsInv (registry.removeIf key stream.state).1
      (streams.set k { stream with phase := if (registry.removeIf key stream.state).2 then .marking else .dropped }) := by
  obtain ⟨group, found, ok⟩ := stream_group inv held
  have unmoved : registry.onGroup stream.state id = registry := by
    rw [ConnectionRegistry.onGroup, List.modify_id]
  rw [ConnectionRegistry.removeIf, found, Option.map_some]
  split
  · rename_i empty
    have step := groups_inv_stream (registry.byPeer.erase key) .marking id inv held (fun other j elsewhere => ?_)
      fun other same ok => ?_
    · rw [unmoved] at step
      exact step
    · rw [dict_lookup_erase]
      split
      · rename_i same
        subst same
        rw [empty.1, Option.some.injEq]
        exact ⟨nofun, fun same => absurd same.symm elsewhere⟩
      · exact Iff.rfl
    · cases found.symm.trans same
      exact stream_removed streams k stream held ok empty.1 (Option.some.inj empty.2)
  · rename_i spared
    have step := groups_inv_stream registry.byPeer .dropped id inv held (fun _ _ _ => Iff.rfl) fun other same ok => ?_
    · rw [unmoved] at step
      exact step
    · cases found.symm.trans same
      exact stream_spared streams k stream held ok removing keyed
        fun ⟨mapped, empty⟩ => spared ⟨mapped, congrArg some empty⟩

theorem groups_inv_close (closes : stream.phase = .live ∧ stream.peerKey = none ∨ stream.phase = .marking) :
    GroupsInv (registry.onGroup stream.state ConnectionState.markClosed) (streams.set k { stream with phase := .dropped }) := by
  refine groups_inv_stream registry.byPeer .dropped _ inv held (fun _ _ _ => Iff.rfl) fun group _ ok => ?_
  rcases closes with ⟨live, unkeyed⟩ | marking
  · exact peerless_closed _ k stream held ok live unkeyed
  · exact stream_marked _ k stream held ok marking

end Drop

theorem drop_stream_cases (taken : dropStream system k stream = some next) :
    ((stream.phase = .live ∧ stream.peerKey = none ∨ stream.phase = .marking) ∧
        next = system.setStream k stream (system.registry.onGroup stream.state ConnectionState.markClosed) .dropped) ∨
      ∃ key, stream.peerKey = some key ∧
        (stream.phase = .live ∧ next = system.setStream k stream (system.registry.leave key stream.state).1
            (if (system.registry.leave key stream.state).2 then .removing else .dropped) ∨
          stream.phase = .removing ∧ next = system.setStream k stream (system.registry.removeIf key stream.state).1
            (if (system.registry.removeIf key stream.state).2 then .marking else .dropped)) := by
  rw [dropStream] at taken
  cases keyed : stream.peerKey with
  | none =>
    cases phase : stream.phase with
    | live =>
      simp only [keyed, phase, Option.some.injEq] at taken
      exact .inl ⟨.inl ⟨rfl, rfl⟩, taken.symm⟩
    | _ => simp [keyed, phase] at taken
  | some key =>
    cases phase : stream.phase with
    | live =>
      simp only [keyed, phase, Option.some.injEq] at taken
      exact .inr ⟨key, rfl, .inl ⟨rfl, taken.symm⟩⟩
    | removing =>
      simp only [keyed, phase, Option.some.injEq] at taken
      exact .inr ⟨key, rfl, .inr ⟨rfl, taken.symm⟩⟩
    | marking =>
      simp only [keyed, phase, Option.some.injEq] at taken
      exact .inl ⟨.inr rfl, taken.symm⟩
    | dropped => simp [keyed, phase] at taken

theorem groups_inv_drop (inv : GroupsInv system.registry system.streams)
    (held : system.streams[k]? = some stream) (taken : dropStream system k stream = some next) :
    GroupsInv next.registry next.streams := by
  rcases drop_stream_cases taken with ⟨closes, rfl⟩ | ⟨key, keyed, ⟨live, rfl⟩ | ⟨removing, rfl⟩⟩
  · exact groups_inv_close inv held closes
  · exact groups_inv_leave inv held live keyed
  · exact groups_inv_remove inv held removing keyed

theorem stream_joined (mapped : byPeer.lookup key = some g) (ok : GroupOk byPeer streams g group) :
    GroupOk byPeer (streams ++ [⟨g, some key, .live⟩]) g group.join := by
  cases ok with
  | registered key' names unclosed peers counted _ =>
    cases (names key).mp mapped
    refine .registered key names unclosed (forall_added peers fun _ => ⟨rfl, nofun⟩) ?_
      (.inl (Nat.succ_pos _))
    · rw [total_append, total_cons, total_nil, ← counted, TrackedStream.liveIn, if_pos ⟨rfl, rfl⟩]
      rfl
  | removed unmapped _ _ | peerless unmapped _ _ _ _ | closed unmapped _ _ => exact absurd mapped (unmapped key)

section Accept

variable {registry : ConnectionRegistry} {streams : List TrackedStream} (inv : GroupsInv registry streams)

include inv

theorem groups_inv_join (found : registry.lookup key = some g) :
    GroupsInv (registry.onGroup g ConnectionState.join) (streams ++ [⟨g, some key, .live⟩]) := by
  have length := on_group_length registry g ConnectionState.join
  refine groups_inv_at inv (Nat.le_of_eq length.symm) (Nat.lt_of_lt_of_eq (inv.named key g found) length.symm)
    (fun j group other held => ?_) (fun _ _ _ => Iff.rfl) (fun j other => same_at_added (Ne.symm other)) fun group held => ?_
  · rcases on_group_cases held with ⟨same, -⟩ | ⟨-, old⟩
    · exact absurd same other
    · exact old
  · rcases on_group_cases held with ⟨-, old, before, rfl⟩ | ⟨other, -⟩
    · exact stream_joined found (inv.groups g old before)
    · exact absurd rfl other

theorem groups_inv_allocated (names : ∀ key j, j ≠ registry.groups.length → (byPeer.lookup key = some j ↔ registry.lookup key = some j))
    (own : GroupOk byPeer (streams ++ [⟨registry.groups.length, peerKey, .live⟩]) registry.groups.length ConnectionState.new) :
    GroupsInv ⟨registry.groups ++ [ConnectionState.new], byPeer⟩ (streams ++ [⟨registry.groups.length, peerKey, .live⟩]) := by
  refine groups_inv_at inv ?_ ?_ (fun j group other held => ?_) names
    (fun j other => same_at_added (Ne.symm other)) fun group held => ?_
  · simp
  · simp
  · rcases slot_added_cases held with ⟨same, -⟩ | old
    · exact absurd same other
    · exact old
  · rcases slot_added_cases held with ⟨-, rfl⟩ | old
    · exact own
    · exact absurd (List.getElem?_eq_some_iff.mp old).1 (Nat.lt_irrefl _)

theorem fresh_unnamed (key : String) : registry.lookup key ≠ some registry.groups.length :=
  fun found => Nat.lt_irrefl _ (inv.named key _ found)

theorem fresh_unused (member : stream ∈ streams) : stream.state ≠ registry.groups.length :=
  Nat.ne_of_lt (inv.known stream member)

theorem groups_inv_register (vacant : registry.lookup key = none) :
    GroupsInv ⟨registry.groups ++ [ConnectionState.new], registry.byPeer.insert key registry.groups.length⟩
      (streams ++ [⟨registry.groups.length, some key, .live⟩]) := by
  refine groups_inv_allocated inv (fun other j elsewhere => ?_) (.registered key (fun other => ?_) rfl
    (fun other member inside => ?_) ?_ (.inl Nat.one_pos))
  · rw [dict_lookup_insert]
    split
    · rename_i same
      subst same
      rw [vacant, Option.some.injEq]
      exact ⟨fun same => absurd same.symm elsewhere, nofun⟩
    · exact Iff.rfl
  · rw [dict_lookup_insert]
    split
    · rename_i same
      exact ⟨fun _ => same, fun _ => rfl⟩
    · rename_i different
      exact ⟨fun found => absurd found (fresh_unnamed inv other), fun same => absurd same different⟩
  · rcases List.mem_append.mp member with old | new
    · exact absurd inside (fresh_unused inv old)
    · cases List.mem_singleton.mp new
      exact ⟨rfl, nofun⟩
  · have none : total (TrackedStream.liveIn registry.groups.length) streams = 0 := by
      refine Nat.le_zero.mp (Nat.le_trans (total_le_total _ (fun _ => 0) streams fun stream member => ?_) (by simp [total]))
      exact Nat.le_of_eq (live_in_other (fresh_unused inv member))
    rw [total_append, total_cons, total_nil, none, TrackedStream.liveIn, if_pos ⟨rfl, rfl⟩]
    rfl

theorem groups_inv_peerless :
    GroupsInv ⟨registry.groups ++ [ConnectionState.new], registry.byPeer⟩ (streams ++ [⟨registry.groups.length, none, .live⟩]) := by
  refine groups_inv_allocated inv (fun _ _ _ => Iff.rfl) (.peerless (fresh_unnamed inv) rfl
    streams.length (by simp) fun j stream held inside => ?_)
  rcases slot_added_cases held with ⟨last, -⟩ | old
  · exact last
  · exact absurd inside (fresh_unused inv (List.mem_of_getElem? old))

end Accept

theorem groups_inv_accept (inv : GroupsInv system.registry system.streams) :
    GroupsInv (acceptStream system peerKey).registry (acceptStream system peerKey).streams := by
  cases peerKey with
  | none => exact groups_inv_peerless inv
  | some key =>
    simp only [acceptStream, ConnectionRegistry.register]
    cases found : system.registry.lookup key with
    | none => exact groups_inv_register inv found
    | some g => exact groups_inv_join inv found

end Pkcs11Proxy.Server
