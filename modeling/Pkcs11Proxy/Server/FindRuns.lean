import Mathlib.Data.List.ModifyLast
import Pkcs11Proxy.Server.FindFidelity

namespace Pkcs11Proxy.Server

open Lib Pkcs11Proxy.Types

def passedObjects (env : FindEnv) (own : LogicalClientInstance) (scanned : List (List BackendHandle × Bool)) :
    FindOpening → List BackendHandle
  | .scan session path => scanned.flatMap (passed env own session path)
  | .refused _ => []

def FindState.returnedHandles (state : FindState) : List VirtualHandle := state.answers.flatMap FindAnswer.handles

structure FindFaithful (env : FindEnv) (own : LogicalClientInstance) (opening : FindOpening) (matching : List BackendHandle)
    (state : FindState) : Prop where
  ends : ∀ answer ∈ state.answers, answer.ckRv = .ok → answer.handles = [] → answer.drained = true
  exhausted : ∀ answer ∈ state.answers, answer.ckRv = .ok → answer.handles = [] → answer.maxCount ≠ 0 → state.cursor.remaining = []
  bounded : ∀ answer ∈ state.answers, answer.handles.length ≤ answer.maxCount.toNat
  scanned : state.scanned.flatMap Prod.fst ++ state.cursor.remaining = matching
  returned : state.request = none → ∃ context, state.contexts.lookup env.client = some context ∧
    state.returnedHandles.map context.objectHandles.resolve = (passedObjects env own state.scanned opening).map some
  once : state.returnedHandles.Nodup

def FindAllowed (env : FindEnv) (state : FindState) : FindAction → Prop
  | .finish => ∀ request ∈ state.request, request.keptBySoleHolder ≠ [] → request.kept = [] → state.isSoleHolder env = true
  | _ => True

instance decidableFindAllowed (env : FindEnv) (state : FindState) : (action : FindAction) → Decidable (FindAllowed env state action)
  | .finish => inferInstanceAs (Decidable (∀ request ∈ (_ : Option FindRequest), _))
  | .begin _ | .pull | .createContext _ | .openSession .. | .closeSession .. | .removeContext _ => .isTrue trivial

def pendingOf : Option FindRequest → List BackendHandle
  | some request => request.kept ++ request.keptBySoleHolder
  | none => []

section Invariant

variable (env : FindEnv) (own : LogicalClientInstance) (opening : FindOpening) (matching : List BackendHandle)

structure OwnKept (state : FindState) (context : LogicalClientInstance) : Prop where
  frame : SameSearch own context
  well : HandleWell context.objectHandles
  room : context.objectHandles.nextId.toNat + (pendingOf state.request ++ state.cursor.remaining).length < UInt64.size
  unseen : ∀ object ∈ state.cursor.remaining, context.objectHandles.resolveBackend object = own.objectHandles.resolveBackend object
  returned : ∃ objects, passedObjects env own state.scanned opening = objects ++ pendingOf state.request ∧
    state.returnedHandles.map context.objectHandles.resolve = objects.map some

structure RequestKept (state : FindState) (request : FindRequest) : Prop where
  opened : opening = .scan request.session request.path
  short : (request.kept ++ request.keptBySoleHolder).length ≤ request.maxCount.toNat
  scanning : request.finished = false → request.kept ++ request.keptBySoleHolder = [] ∧ request.drained = false
  done : request.finished = true → request.kept ++ request.keptBySoleHolder = [] → request.drained = true
  exhausted : request.drained = true → request.maxCount ≠ 0 → state.cursor.remaining = []
  latest : request.keptBySoleHolder ≠ [] → ∃ earlier batch, state.scanned = earlier ++ [(batch, true)] ∧
    request.kept = passed env own request.session request.path (batch, false) ∧
    request.kept ++ request.keptBySoleHolder = passed env own request.session request.path (batch, true)

structure AnswerKept (remaining : List BackendHandle) (answer : FindAnswer) : Prop where
  ends : answer.ckRv = .ok → answer.handles = [] → answer.drained = true
  exhausted : answer.ckRv = .ok → answer.handles = [] → answer.maxCount ≠ 0 → remaining = []
  bounded : answer.handles.length ≤ answer.maxCount.toNat

structure FindInv (tokens : BackendSlotId → Option (Text × Text)) (state : FindState) : Prop where
  mine : ∃ context, state.contexts.lookup env.client = some context ∧ OwnKept env own opening state context
  token : ∀ slot, tokenOf env.gate (state.gate env) slot = tokens slot
  scanned : state.scanned.flatMap Prod.fst ++ state.cursor.remaining = matching
  request : ∀ request ∈ state.request, RequestKept env own opening state request
  answers : ∀ answer ∈ state.answers, AnswerKept state.cursor.remaining answer

end Invariant

variable {rv : CkRv} {cursor : FindCursor}

section Steps

variable {env : FindEnv} {own : LogicalClientInstance} {opening : FindOpening} {matching : List BackendHandle}
  {tokens : BackendSlotId → Option (Text × Text)} {state : FindState} (inv : FindInv env own opening matching tokens state)

include inv

theorem other_move_inv {contexts : Dict ClientContextId LogicalClientInstance}
    (same : contexts.lookup env.client = state.contexts.lookup env.client) :
    FindInv env own opening matching tokens { state with contexts := contexts } := by
  obtain ⟨context, held, kept⟩ := inv.mine
  refine ⟨⟨context, same.trans held, ⟨kept.frame, kept.well, kept.room, kept.unseen, kept.returned⟩⟩,
    inv.token, inv.scanned, ?_, inv.answers⟩
  intro request member
  have old := inv.request request member
  exact ⟨old.opened, old.short, old.scanning, old.done, old.exhausted, old.latest⟩

variable {next : FindState}

theorem edit_other_inv {other : ClientContextId} {edit : LogicalClientInstance → LogicalClientInstance}
    (taken : editOther env state other edit = some next) : FindInv env own opening matching tokens next := by
  rw [editOther] at taken
  split at taken
  · cases taken
  · rename_i different
    obtain ⟨context, -, rfl⟩ := Option.map_eq_some_iff.mp taken
    exact other_move_inv inv (dict_lookup_insert.trans (if_neg (Ne.symm different)))

omit inv in
theorem opening_congr {first second : GateState} {mine other : LogicalClientInstance} (left : first.context = some mine)
    (right : second.context = some other) (same : SameSearch other mine)
    (token : ∀ slot, tokenOf env.gate first slot = tokenOf env.gate second slot) : openingOf env first = openingOf env second := by
  have verdict : sessionVerdict mine env.session = sessionVerdict other env.session := by
    rw [sessionVerdict, same.sessions, sessionVerdict]
  have loggedIn : sessionSlotLoggedIn env (some mine) = sessionSlotLoggedIn env (some other) := by
    simp [sessionSlotLoggedIn, same.slots, same.login]
  have slot : slotForSession (some mine) env.session = slotForSession (some other) env.session := by
    simp [slotForSession, same.slots]
  have authz : authzContext env.gate first env.session = authzContext env.gate second env.session := by
    have identity : contextIdentity env.gate (some mine) = contextIdentity env.gate (some other) := rfl
    simp only [authzContext, left, right, slot, identity, token]
  simp only [openingOf, left, right, verdict, loggedIn, authz]

omit inv in
theorem answers_consumed {answers : List FindAnswer} {remaining rest : List BackendHandle} (shrinks : remaining = [] → rest = [])
    (old : ∀ given ∈ answers, AnswerKept remaining given) : ∀ given ∈ answers, AnswerKept rest given := fun given member =>
  ⟨(old given member).ends, fun good empty positive => shrinks ((old given member).exhausted good empty positive), (old given member).bounded⟩

variable {maxCount : UInt32}

omit inv in
theorem failed_answer_kept {remaining : List BackendHandle} {drained : Bool} (failed : rv ≠ .ok) :
    AnswerKept remaining ⟨maxCount, rv, [], drained⟩ :=
  ⟨fun good => absurd good failed, fun good => absurd good failed, Nat.zero_le _⟩

theorem answer_nothing_inv (failed : rv ≠ .ok) (nothing : pendingOf state.request = []) :
    FindInv env own opening matching tokens (answerFind state maxCount rv [] false) := by
  obtain ⟨context, held, kept⟩ := inv.mine
  have same : (answerFind state maxCount rv [] false).returnedHandles = state.returnedHandles := by
    rw [FindState.returnedHandles, answerFind, List.flatMap_append]
    exact List.append_nil _
  have pending : pendingOf (answerFind state maxCount rv [] false).request = pendingOf state.request := nothing.symm
  refine ⟨⟨context, held, kept.frame, kept.well, ?_, kept.unseen, ?_⟩,
    inv.token, inv.scanned, ?_, ?_⟩
  · rw [pending]
    exact kept.room
  · rw [pending, same]
    exact kept.returned
  · intro request member
    cases member
  · exact forall_added inv.answers (failed_answer_kept failed)

theorem begin_inv (opens : openingOf env (state.gate env) = opening) (resolvable : ∀ rv, opening = .refused rv → rv ≠ .ok)
    (taken : stepBegin env state maxCount = some next) :
    FindInv env own opening matching tokens next := by
  rw [stepBegin] at taken
  split at taken
  · cases taken
  · rename_i busy
    have idle : state.request = none := Option.not_isSome_iff_eq_none.mp busy
    obtain ⟨gate, ran, token⟩ := find_opening_reads env
    have learned : FindInv env own opening matching tokens { state with tokenInfo := gate.tokenInfoCache } := by
      obtain ⟨context, held, kept⟩ := inv.mine
      refine ⟨⟨context, held, kept.frame, kept.well, kept.room, kept.unseen, kept.returned⟩,
        fun slot => (token slot).trans (inv.token slot), inv.scanned, ?_, inv.answers⟩
      intro request member
      rw [idle] at member
      cases member
    rw [ran, opens] at taken
    cases opened : opening with
    | refused rv =>
      rw [opened] at taken learned
      cases taken
      exact answer_nothing_inv learned (resolvable rv opened) (congrArg pendingOf idle)
    | scan session path =>
      rw [opened] at taken learned
      cases taken
      obtain ⟨context, held, kept⟩ := learned.mine
      have pending : pendingOf state.request = [] := congrArg pendingOf idle
      refine ⟨⟨context, held, kept.frame, kept.well, ?_, kept.unseen, ?_⟩,
        learned.token, learned.scanned, ?_, learned.answers⟩
      · have room := kept.room
        rw [pending] at room
        exact room
      · have returned := kept.returned
        rw [pending] at returned
        exact returned
      · intro request member
        cases member
        exact ⟨rfl, Nat.zero_le _, fun _ => ⟨rfl, rfl⟩, nofun, nofun,
          fun some_ => absurd rfl some_⟩

variable {maxCount : Nat}

omit inv in
theorem empty_batch (empty : cursor.batch maxCount = []) :
    (cursor.advance maxCount).remaining = cursor.remaining ∧ (maxCount ≠ 0 → cursor.remaining = []) := by
  have whole := List.take_append_drop (cursor.batchSize maxCount) cursor.remaining
  rw [FindCursor.batch] at empty
  constructor
  · rw [empty] at whole
    exact whole
  · intro positive
    have size : cursor.batchSize maxCount ≠ 0 := by
      rw [FindCursor.batchSize]
      omega
    exact (List.take_eq_nil_iff.mp empty).resolve_left size

omit inv in
theorem batch_split (cursor : FindCursor) (maxCount : Nat) :
    cursor.batch maxCount ++ (cursor.advance maxCount).remaining = cursor.remaining :=
  List.take_append_drop _ _

omit inv in
theorem batch_short : (cursor.batch maxCount).length ≤ maxCount := by
  rw [FindCursor.batch, List.length_take, FindCursor.batchSize]
  omega

variable {request : FindRequest}

section

variable (inFlight : state.request = some request)

include inFlight

theorem drained_inv (empty : state.cursor.batch request.maxCount.toNat = []) :
    FindInv env own opening matching tokens { state with
      cursor := state.cursor.advance request.maxCount.toNat
      request := some { request with finished := true, drained := true } } := by
  obtain ⟨context, held, kept⟩ := inv.mine
  have asked := inv.request request inFlight
  obtain ⟨same, exhausted⟩ := empty_batch empty
  have pending : pendingOf state.request = request.kept ++ request.keptBySoleHolder := congrArg pendingOf inFlight
  refine ⟨⟨context, held, kept.frame, kept.well, ?_, ?_, ?_⟩, inv.token, ?_, ?_, ?_⟩
  · have room := kept.room
    rw [pending] at room
    rw [same]
    exact room
  · rw [same]
    exact kept.unseen
  · have returned := kept.returned
    rw [pending] at returned
    exact returned
  · rw [same]
    exact inv.scanned
  · intro other member
    cases member
    refine ⟨asked.opened, asked.short, nofun, fun _ _ => rfl, fun _ positive => ?_, asked.latest⟩
    rw [same]
    exact exhausted fun zero => positive (UInt32.toNat_inj.mp zero)
  · rw [same]
    exact inv.answers

theorem batch_inv (scanning : request.finished = false)
    {sole : Bool} (next : FindRequest) (same : next.session = request.session ∧ next.path = request.path ∧ next.maxCount = request.maxCount)
    (found : next.kept ++ next.keptBySoleHolder = passed env own request.session request.path (state.cursor.batch request.maxCount.toNat, sole))
    (latest : next.keptBySoleHolder ≠ [] → sole = true ∧
      next.kept = passed env own request.session request.path (state.cursor.batch request.maxCount.toNat, false))
    (undrained : next.drained = false) (more : next.finished = false → next.kept ++ next.keptBySoleHolder = [])
    (done : next.finished = true → next.kept ++ next.keptBySoleHolder ≠ []) :
    FindInv env own opening matching tokens { state with
      cursor := state.cursor.advance request.maxCount.toNat
      scanned := state.scanned ++ [(state.cursor.batch request.maxCount.toNat, sole)]
      request := some next } := by
  obtain ⟨context, held, kept⟩ := inv.mine
  have asked := inv.request request inFlight
  have split := batch_split state.cursor request.maxCount.toNat
  have size := (passed_subperm env own request.session request.path (state.cursor.batch request.maxCount.toNat, sole)).length_le
  have pending : pendingOf state.request = [] := (congrArg pendingOf inFlight).trans (asked.scanning scanning).1
  obtain ⟨objects, before, resolved⟩ := kept.returned
  rw [pending, List.append_nil] at before
  have passedNow : passedObjects env own (state.scanned ++ [(state.cursor.batch request.maxCount.toNat, sole)]) opening =
      objects ++ (next.kept ++ next.keptBySoleHolder) := by
    rw [found, ← before, asked.opened, passedObjects, passedObjects, List.flatMap_append, List.flatMap_singleton]
  refine ⟨⟨context, held, kept.frame, kept.well, ?_, ?_, ⟨objects, passedNow, resolved⟩⟩,
    inv.token, ?_, ?_, ?_⟩
  · have room := kept.room
    rw [pending, List.nil_append, ← split, List.length_append] at room
    rw [List.length_append, pendingOf, found]
    dsimp only at size ⊢
    omega
  · intro object member
    apply kept.unseen object
    rw [← split]
    exact List.mem_append_right _ member
  · rw [List.flatMap_append, List.flatMap_singleton, List.append_assoc, split]
    exact inv.scanned
  · intro other member
    cases member
    obtain ⟨sameSession, samePath, sameMax⟩ := same
    refine ⟨?_, ?_, fun unfinished => ⟨more unfinished, undrained⟩, fun ended nothing => absurd nothing (done ended), fun drained => ?_,
      fun some_ => ?_⟩
    · rw [sameSession, samePath]
      exact asked.opened
    · rw [found, sameMax]
      exact Nat.le_trans size batch_short
    · rw [undrained] at drained
      cases drained
    · obtain ⟨rfl, visible⟩ := latest some_
      rw [sameSession, samePath]
      exact ⟨_, _, rfl, visible, found⟩
  · apply answers_consumed ?_ inv.answers
    intro none_
    rw [← split, List.append_eq_nil_iff] at none_
    exact none_.2

theorem scan_batch_inv (scanning : request.finished = false) :
    FindInv env own opening matching tokens (scanBatch env state request) := by
  rw [scanBatch]
  dsimp only
  split
  · rename_i empty
    exact drained_inv inv inFlight (List.isEmpty_iff.mp empty)
  · obtain ⟨context, held, kept⟩ := inv.mine
    have split := batch_split state.cursor request.maxCount.toNat
    have filters := admitted_congr env own request.session request.path
      (state.isSoleHolder env) (fun object member => kept.unseen object (split ▸ List.mem_append_left _ member)) kept.frame.isPrivate
    have asked := inv.request request inFlight
    obtain ⟨nothing, undrained⟩ := asked.scanning scanning
    rw [held, filters]
    split
    · rename_i empty
      rw [Bool.and_eq_true, List.isEmpty_iff, List.isEmpty_iff] at empty
      have found : request.kept ++ request.keptBySoleHolder = passed env own request.session request.path
          (state.cursor.batch request.maxCount.toNat, state.isSoleHolder env) := by
        rw [nothing, passed, empty.1, empty.2]
        rfl
      have pulled (population : Nat) := batch_inv inv inFlight scanning
        { request with population := population } ⟨rfl, rfl, rfl⟩ found
        (fun some_ => absurd (List.append_eq_nil_iff.mp nothing).2 some_) undrained (fun _ => nothing) fun ended => by
          rw [scanning] at ended
          cases ended
      split
      · exact answer_nothing_inv (pulled request.population) (by decide) nothing
      · exact pulled _
    · rename_i some_
      apply batch_inv inv inFlight scanning
      · exact ⟨rfl, rfl, rfl⟩
      · rfl
      · intro bySole
        refine ⟨?_, (List.append_nil _).symm⟩
        by_contra shared
        exact bySole (if_neg shared)
      · exact undrained
      · intro unfinished
        cases unfinished
      · intro _ none_
        obtain ⟨noneKept, noneSole⟩ := List.append_eq_nil_iff.mp none_
        apply some_
        dsimp only at noneKept noneSole
        rw [noneKept, noneSole]
        rfl

end

omit inv in
theorem resolve_kept {virts : List VirtualHandle} {objects : List BackendHandle} {map : HandleMap} {next : HandleMap}
    (kept : ∀ query object, map.resolve query = some object → next.resolve query = some object)
    (resolved : virts.map map.resolve = objects.map some) : virts.map next.resolve = objects.map some := by
  rw [← resolved]
  apply List.map_congr_left
  intro virt member
  have mapped : map.resolve virt ∈ objects.map some := resolved ▸ List.mem_map_of_mem member
  obtain ⟨object, -, same⟩ := List.mem_map.mp mapped
  rw [← same]
  exact kept virt object same.symm

theorem recheck_inv (inFlight : state.request = some request) (ended : request.finished = true)
    (visible : request.keptBySoleHolder ≠ [] → request.kept = [] → state.isSoleHolder env = true) :
    FindInv env own opening matching tokens
      { (recheckHolder env state request).1 with request := some (recheckHolder env state request).2 } := by
  have asked := inv.request request inFlight
  rw [recheckHolder]
  split
  · rename_i raced
    rw [Bool.and_eq_true, Bool.not_eq_true', Bool.not_eq_true', List.isEmpty_eq_false_iff] at raced
    obtain ⟨context, held, kept⟩ := inv.mine
    obtain ⟨earlier, batch, scanned, alone, both⟩ := asked.latest raced.1
    have pending : pendingOf state.request = request.kept ++ request.keptBySoleHolder := congrArg pendingOf inFlight
    have demoted : state.scanned.modifyLast (fun entry => (entry.1, false)) = earlier ++ [(batch, false)] := by
      rw [scanned, List.modifyLast_concat]
    have shorter : request.kept.length ≤ (request.kept ++ request.keptBySoleHolder).length := by
      rw [List.length_append]
      exact Nat.le_add_right _ _
    simp only [demoted]
    refine ⟨⟨context, held, kept.frame, kept.well, ?_, kept.unseen, ?_⟩, inv.token, ?_, ?_, inv.answers⟩
    · have room := kept.room
      rw [pending, List.length_append] at room
      rw [pendingOf, List.append_nil, List.length_append]
      dsimp only
      omega
    · obtain ⟨objects, before, resolved⟩ := kept.returned
      rw [pending, scanned, both, asked.opened, passedObjects, List.flatMap_append, List.flatMap_singleton, List.append_cancel_right_eq] at before
      refine ⟨objects, ?_, resolved⟩
      rw [asked.opened, passedObjects, List.flatMap_append, List.flatMap_singleton, before, ← alone, pendingOf, List.append_nil]
    · rw [← inv.scanned, scanned, List.flatMap_append, List.flatMap_append]
      rfl
    · intro other member
      cases member
      refine ⟨asked.opened, ?_, ?_, ?_, asked.exhausted, fun some_ => absurd rfl some_⟩
      · rw [List.append_nil]
        exact Nat.le_trans shorter asked.short
      · intro unfinished
        rw [ended] at unfinished
        cases unfinished
      · intro _ nothing
        rw [visible raced.1 (List.append_eq_nil_iff.mp nothing).1] at raced
        cases raced.2
  · rw [← inFlight]
    exact inv

theorem finish_inv (distinct : matching.Nodup) (inFlight : state.request = some request)
    (ended : request.finished = true) :
    FindInv env own opening matching tokens (finishFind env state request) := by
  obtain ⟨context, held, kept⟩ := inv.mine
  have asked := inv.request request inFlight
  have pending : pendingOf state.request = request.kept ++ request.keptBySoleHolder := congrArg pendingOf inFlight
  have room := kept.room
  rw [pending, List.length_append] at room
  have registered := register_object_handles_spec (request.kept ++ request.keptBySoleHolder) context kept.well (by omega)
  obtain ⟨objects, before, resolved⟩ := kept.returned
  rw [pending] at before
  rw [finishFind, held]
  dsimp only
  generalize (if request.path.isRestricted then _ else _ : List (VirtualHandle × ObjectMetadata)) = known
  have stored := store_metas_same env.gate.generation known (context.registerObjectHandles (request.kept ++ request.keptBySoleHolder)).1
  generalize (context.registerObjectHandles (request.kept ++ request.keptBySoleHolder)).1 = next at registered stored ⊢
  generalize (context.registerObjectHandles (request.kept ++ request.keptBySoleHolder)).2 = virts at registered ⊢
  obtain ⟨same, handles⟩ := stored
  have answered : (state.returnedHandles ++ virts).map next.objectHandles.resolve =
      (passedObjects env own state.scanned opening).map some := by
    rw [before, List.map_append, List.map_append, registered.given]
    congr 1
    exact resolve_kept registered.kept resolved
  refine ⟨⟨_, dict_lookup_insert.trans (if_pos rfl), ?_⟩, inv.token, inv.scanned, nofun, ?_⟩
  · refine ⟨?_, ?_, ?_, ?_, ⟨_, (List.append_nil _).symm, ?_⟩⟩
    · exact same_search_trans kept.frame (same_search_trans registered.frame same)
    · rw [handles]
      exact registered.well
    · have counter := registered.counter
      rw [handles]
      change _ + state.cursor.remaining.length < _
      omega
    · intro object member
      rw [handles, registered.others object ?_]
      · exact kept.unseen object member
      · intro inside
        have passedNow : object ∈ passedObjects env own state.scanned opening := by
          rw [before]
          exact List.mem_append_right _ inside
        rw [asked.opened] at passedNow
        have seen := (passed_flat_subperm env own request.session request.path).subset passedNow
        rw [← inv.scanned] at distinct
        exact (List.disjoint_of_nodup_append distinct) seen member
    · rw [handles, FindState.returnedHandles, answerFind, List.flatMap_append, List.flatMap_singleton]
      exact answered
  · apply forall_added inv.answers
    have given := congrArg List.length registered.given
    rw [List.length_map, List.length_map] at given
    have nothing : virts = [] → request.kept ++ request.keptBySoleHolder = [] := by
      intro empty
      rw [empty] at given
      exact List.eq_nil_of_length_eq_zero given.symm
    refine ⟨?_, ?_, ?_⟩
    · intro _ empty
      exact asked.done ended (nothing empty)
    · intro _ empty
      exact asked.exhausted (asked.done ended (nothing empty))
    · rw [given]
      exact asked.short

end Steps

variable {env : FindEnv} {own : LogicalClientInstance} {tokenInfo : Dict BackendSlotId (Text × Text)} {matching : List BackendHandle}

theorem find_step_inv (distinct : matching.Nodup)
    (resolvable : ∀ rv, openingOf env ⟨some own, tokenInfo, [], none⟩ = .refused rv → rv ≠ .ok)
    (state : FindState) (action : FindAction) (next : FindState)
    (inv : FindInv env own (openingOf env ⟨some own, tokenInfo, [], none⟩) matching (tokenOf env.gate ⟨some own, tokenInfo, [], none⟩) state)
    (allowed : FindAllowed env state action) (taken : findStep env state action = some next) :
    FindInv env own (openingOf env ⟨some own, tokenInfo, [], none⟩) matching (tokenOf env.gate ⟨some own, tokenInfo, [], none⟩) next := by
  cases action with
  | begin maxCount =>
    obtain ⟨context, held, kept⟩ := inv.mine
    have opens : openingOf env (state.gate env) = openingOf env ⟨some own, tokenInfo, [], none⟩ :=
      opening_congr held rfl kept.frame inv.token
    exact begin_inv inv opens resolvable taken
  | pull =>
    obtain ⟨request, inFlight, taken⟩ := Option.bind_eq_some_iff.mp taken
    split at taken <;> cases taken
    rename_i scanning
    exact scan_batch_inv inv inFlight (Bool.not_eq_true _ ▸ scanning)
  | finish =>
    obtain ⟨request, inFlight, taken⟩ := Option.bind_eq_some_iff.mp taken
    split at taken <;> cases taken
    rename_i ended
    have checked := recheck_inv inv inFlight ended (allowed request inFlight)
    refine finish_inv checked distinct rfl ?_
    rw [recheckHolder]
    split <;> exact ended
  | createContext other =>
    obtain ⟨context, held, -⟩ := inv.mine
    rw [findStep] at taken
    split at taken <;> cases taken
    rename_i absent
    apply other_move_inv inv
    rw [dict_lookup_insert, if_neg]
    rintro rfl
    rw [held] at absent
    exact absent rfl
  | openSession | closeSession => exact edit_other_inv inv taken
  | removeContext other =>
    rw [findStep] at taken
    split at taken <;> cases taken
    rename_i different
    exact other_move_inv inv (dict_lookup_erase.trans (if_neg (Ne.symm different)))

variable {opening : FindOpening}

theorem find_inv_start {others : Dict ClientContextId LogicalClientInstance} (well : HandleWell own.objectHandles)
    (room : own.objectHandles.nextId.toNat + cursor.remaining.length < UInt64.size) :
    FindInv env own opening cursor.remaining (tokenOf env.gate ⟨some own, tokenInfo, [], none⟩)
      (FindState.start env own others tokenInfo cursor) where
  mine := by
    have nothing : passedObjects env own [] opening = [] := by cases opening <;> rfl
    exact ⟨own, dict_lookup_insert.trans (if_pos rfl), ⟨rfl, rfl, rfl, rfl⟩, well, room, fun _ _ => rfl, [], nothing, rfl⟩
  token _ := rfl
  scanned := rfl
  request _ member := by cases member
  answers _ member := by cases member

theorem passed_objects_nodup (env : FindEnv) (own : LogicalClientInstance) {scanned : List (List BackendHandle × Bool)}
    (opening : FindOpening) (distinct : (scanned.flatMap Prod.fst).Nodup) : (passedObjects env own scanned opening).Nodup := by
  cases opening with
  | refused rv => exact List.nodup_nil
  | scan session path =>
    obtain ⟨objects, perm, sublist⟩ := passed_flat_subperm env own session path
    exact perm.nodup_iff.mp (distinct.sublist sublist)

theorem find_faithful_of_inv
    {tokens : BackendSlotId → Option (Text × Text)} {state : FindState} (distinct : matching.Nodup)
    (inv : FindInv env own opening matching tokens state) : FindFaithful env own opening matching state := by
  obtain ⟨context, held, kept⟩ := inv.mine
  obtain ⟨objects, split, resolved⟩ := kept.returned
  refine ⟨fun answer member => (inv.answers answer member).ends, fun answer member => (inv.answers answer member).exhausted,
    fun answer member => (inv.answers answer member).bounded, inv.scanned, ?_, ?_⟩
  · intro idle
    rw [idle, pendingOf, List.append_nil] at split
    exact ⟨context, held, by rw [split]; exact resolved⟩
  · have seen : (state.scanned.flatMap Prod.fst).Nodup := by
      rw [← inv.scanned] at distinct
      exact distinct.of_append_left
    have once := passed_objects_nodup env own opening seen
    rw [split] at once
    apply List.Nodup.of_map context.objectHandles.resolve
    rw [resolved]
    exact once.of_append_left.map (Option.some_injective _)

theorem find_enumeration_faithful (env : FindEnv) (own : LogicalClientInstance) (others : Dict ClientContextId LogicalClientInstance)
    (tokenInfo : Dict BackendSlotId (Text × Text)) (cursor : FindCursor) (distinct : cursor.remaining.Nodup)
    (well : HandleWell own.objectHandles) (room : own.objectHandles.nextId.toNat + cursor.remaining.length < UInt64.size)
    (resolvable : ∀ rv, openingOf env ⟨some own, tokenInfo, [], none⟩ = .refused rv → rv ≠ .ok)
    (actions : List FindAction) (final : FindState)
    (allowed : along (findStep env) (FindAllowed env) (FindState.start env own others tokenInfo cursor) actions)
    (ran : exec (findStep env) (FindState.start env own others tokenInfo cursor) actions = some final) :
    FindFaithful env own (openingOf env ⟨some own, tokenInfo, [], none⟩) cursor.remaining final :=
  find_faithful_of_inv distinct
    (exec_invariant_along (findStep env) (FindAllowed env) _
      (find_step_inv distinct resolvable) (find_inv_start well room) allowed ran)

def sessionObjectsEnv : FindEnv where
  gate :=
    { policy := ⟨[], true, false, none, false, false, false⟩
      identity := none
      generation := 0
      tokenInfo := fun _ => none
      fetchObjectMetadata := fun _ _ => none
      backendObjectIsPrivate := fun _ _ => false
      otherLogin := fun _ => false }
  client := 0
  session := ⟨1⟩
  tokenProbe := fun _ _ => .present false
  privateProbe := fun _ _ => .present false
  objectClass := fun _ _ => some 3
  scanBound := none

def loggedInClient : LogicalClientInstance :=
  let opened := (LogicalClientInstance.new.registerSession ⟨0x10⟩ ⟨0⟩).1
  { opened with loginState := opened.loginState.insert ⟨0⟩ .user }

def twoObjects : FindCursor := ⟨[⟨0x20⟩, ⟨0x21⟩], [1]⟩

theorem session_objects_opening : openingOf sessionObjectsEnv ⟨some loggedInClient, ∅, [], none⟩ ≠ .refused rv := by
  intro refused
  cases refused

theorem find_enumeration_faithful_alone : ∃ final, exec (findStep sessionObjectsEnv)
    (FindState.start sessionObjectsEnv loggedInClient ∅ ∅ twoObjects) [.begin 4, .pull, .finish, .begin 4, .pull, .finish] = some final ∧
      FindFaithful sessionObjectsEnv loggedInClient (openingOf sessionObjectsEnv ⟨some loggedInClient, ∅, [], none⟩)
        twoObjects.remaining final := by
  obtain ⟨final, ran⟩ := Option.isSome_iff_exists.mp (by decide +kernel : (exec (findStep sessionObjectsEnv)
    (FindState.start sessionObjectsEnv loggedInClient ∅ ∅ twoObjects) [.begin 4, .pull, .finish, .begin 4, .pull, .finish]).isSome = true)
  exact ⟨final, ran, find_enumeration_faithful sessionObjectsEnv loggedInClient ∅ ∅ twoObjects (by decide) handle_well_new (by decide)
    (fun rv refused => absurd refused session_objects_opening) _ final (by decide +kernel) ran⟩

-- Another client opens a session on the slot between the batch and the check after the
-- loop: the answer is the one that ends a search, and an object is left.
theorem raced_find_looks_ended : ∃ final, exec (findStep sessionObjectsEnv)
    (FindState.start sessionObjectsEnv loggedInClient ∅ ∅ twoObjects)
      [.begin 4, .pull, .createContext 1, .openSession 1 ⟨0x11⟩ ⟨0⟩, .finish] = some final ∧
      final.answers = [⟨4, .ok, [], false⟩] ∧ final.cursor.remaining = [⟨0x21⟩] ∧
      ¬ FindFaithful sessionObjectsEnv loggedInClient (openingOf sessionObjectsEnv ⟨some loggedInClient, ∅, [], none⟩)
        twoObjects.remaining final := by
  have outcome : (exec (findStep sessionObjectsEnv) (FindState.start sessionObjectsEnv loggedInClient ∅ ∅ twoObjects)
      [.begin 4, .pull, .createContext 1, .openSession 1 ⟨0x11⟩ ⟨0⟩, .finish]).map
        (fun final => (final.answers, final.cursor.remaining)) = some ([⟨4, .ok, [], false⟩], [⟨0x21⟩]) := by decide +kernel
  obtain ⟨final, ran, same⟩ := Option.map_eq_some_iff.mp outcome
  obtain ⟨answers, remaining⟩ := Prod.mk.inj same
  refine ⟨final, ran, answers, remaining, fun faithful => ?_⟩
  have drained := faithful.ends ⟨4, .ok, [], false⟩ (by rw [answers]; exact List.mem_singleton_self _) rfl rfl
  cases drained

end Pkcs11Proxy.Server
