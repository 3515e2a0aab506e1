import Pkcs11Proxy.Lib.Exec
import Pkcs11Proxy.Server.ContextAdmission

namespace Pkcs11Proxy.Server

open Lib Pkcs11Proxy.Types

namespace CreatePhase

def holdsLock : CreatePhase → Nat
  | .checking | .scanning _ _ | .evicting _ _ | .rechecking | .choosing _ _ | .replacing _ _ | .lastCheck | .inserting _
  | .unlocking _ _ => 1
  | _ => 0

def checks : CreatePhase → Nat
  | .checking | .rechecking | .lastCheck => 1
  | _ => 0

def counted : CreatePhase → Nat
  | .reserved | .inserted _ | .cancelled => 1
  | _ => 0

def pending : CreatePhase → Nat
  | .reserved => 1
  | _ => 0

def admitted : CreatePhase → Nat
  | .reserved | .inserting _ => 1
  | _ => 0

def candidates : CreatePhase → Option (String × List Nat)
  | .choosing want candidates | .replacing want candidates => some (want, candidates)
  | _ => none

end CreatePhase

namespace Creator

def holdsLock (creator : Creator) : Nat := creator.phase.holdsLock

def checks (creator : Creator) : Nat := creator.phase.checks

def counted (creator : Creator) : Nat := creator.phase.counted

def pending (creator : Creator) : Nat := creator.phase.pending

def admitted (creator : Creator) : Nat := creator.phase.admitted

def CandidatesOk (system : AdmissionSystem) (creator : Creator) : Prop :=
  ∀ want candidates, creator.phase.candidates = some (want, candidates) → creator.call.identity = some want ∧
    ∀ id ∈ candidates, id < system.nextId ∧ ∀ context, system.find id = some context → context.authenticatedIdentity = some want

end Creator

structure AdmissionInv (config : AdmissionConfig) (system : AdmissionSystem) : Prop where
  lock : total Creator.holdsLock system.creators = if system.locked then 1 else 0
  counted : system.outstanding = total Creator.counted system.creators
  cap : dictSize system.contexts + total Creator.admitted system.creators ≤ config.maxContexts
  ids : ∀ id context, system.find id = some context → id < system.nextId
  candidates : ∀ creator ∈ system.creators, creator.CandidatesOk system

variable {config : AdmissionConfig}

theorem admission_inv_new : AdmissionInv config AdmissionSystem.new where
  lock := rfl
  counted := rfl
  cap := Nat.zero_le _
  ids _ _ found := by cases found
  candidates _ member := by cases member

structure ContextsKept (system next : AdmissionSystem) : Prop where
  grows : system.nextId ≤ next.nextId
  ids : ∀ id context, next.find id = some context → id < next.nextId
  kept : ∀ id context, next.find id = some context → id < system.nextId →
    ∃ old, system.find id = some old ∧ old.authenticatedIdentity = context.authenticatedIdentity

variable {next : AdmissionSystem} {creator : Creator} {k id : Nat}
  {before after phase : CreatePhase} {allowed : AdmittedContext → Bool} {call : CreateCall}
  {context : AdmittedContext} {scanned : Option Nat}

variable {system : AdmissionSystem}

theorem candidates_ok_kept (kept : ContextsKept system next) (ok : creator.CandidatesOk system) : creator.CandidatesOk next := by
  intro want candidates chosen
  obtain ⟨identity, each⟩ := ok want candidates chosen
  refine ⟨identity, fun id member => ?_⟩
  obtain ⟨bound, holds⟩ := each id member
  refine ⟨Nat.lt_of_lt_of_le bound kept.grows, fun context found => ?_⟩
  obtain ⟨old, before, same⟩ := kept.kept id context found bound
  rw [← same]
  exact holds old before

theorem candidates_ok_idle (idle : creator.phase.candidates = none) : creator.CandidatesOk system := by
  intro want candidates chosen
  rw [idle] at chosen
  cases chosen

structure CreateMove (config : AdmissionConfig) (system next : AdmissionSystem) (before after : Creator) : Prop where
  lock : (if next.locked then 1 else 0) + before.holdsLock = (if system.locked then 1 else 0) + after.holdsLock
  counted : next.outstanding + before.counted = system.outstanding + after.counted
  cap : dictSize next.contexts + total Creator.admitted system.creators + after.admitted ≤ config.maxContexts + before.admitted
  contexts : ContextsKept system next
  candidates : after.CandidatesOk next

theorem admission_inv_move {before after : Creator}
    (inv : AdmissionInv config system) (held : system.creators[k]? = some before) (move : CreateMove config system next before after) :
    AdmissionInv config { next with creators := system.creators.set k after } where
  lock := by
    have weight := total_set Creator.holdsLock after held
    have step := move.lock
    have old := inv.lock
    change total Creator.holdsLock (system.creators.set k after) = if next.locked then 1 else 0
    omega
  counted := by
    have weight := total_set Creator.counted after held
    have step := move.counted
    have old := inv.counted
    change next.outstanding = total Creator.counted (system.creators.set k after)
    omega
  cap := by
    have weight := total_set Creator.admitted after held
    have step := move.cap
    change dictSize next.contexts + total Creator.admitted (system.creators.set k after) ≤ config.maxContexts
    omega
  ids := move.contexts.ids
  candidates := forall_set (fun creator old => candidates_ok_kept { move.contexts with } (inv.candidates creator old)) move.candidates

theorem admission_inv_contexts (inv : AdmissionInv config system)
    (kept : ContextsKept system next) (shrinks : dictSize next.contexts ≤ dictSize system.contexts)
    (creators : next.creators = system.creators) (locked : next.locked = system.locked)
    (outstanding : next.outstanding = system.outstanding) : AdmissionInv config next where
  lock := by
    rw [creators, locked]
    exact inv.lock
  counted := by
    rw [creators, outstanding]
    exact inv.counted
  cap := by
    rw [creators]
    exact Nat.le_trans (Nat.add_le_add_right shrinks _) inv.cap
  ids := kept.ids
  candidates creator member := by
    rw [creators] at member
    exact candidates_ok_kept kept (inv.candidates creator member)

theorem remove_if_cases :
    (system.removeIf id allowed = (system, none)) ∨
      ∃ context, system.find id = some context ∧ allowed context = true ∧
        system.removeIf id allowed = ({ system with contexts := system.contexts.erase id }, some context) := by
  rw [AdmissionSystem.removeIf]
  cases found : system.find id with
  | none => exact .inl rfl
  | some context =>
    dsimp only
    split
    · rename_i passes
      exact .inr ⟨context, rfl, passes, rfl⟩
    · exact .inl rfl

variable {action : AdmissionAction}

section Frames

variable {config : AdmissionConfig} {system : AdmissionSystem} (inv : AdmissionInv config system)

include inv

theorem contexts_kept_same (contexts : next.contexts = system.contexts) (nextId : next.nextId = system.nextId) :
    ContextsKept system next := by
  have same : ∀ id, next.find id = system.find id := fun id => by rw [AdmissionSystem.find, contexts, AdmissionSystem.find]
  refine ⟨Nat.le_of_eq nextId.symm, fun id context found => ?_, fun id context found _ => ?_⟩
  · rw [same] at found
    rw [nextId]
    exact inv.ids id context found
  · rw [same] at found
    exact ⟨context, found, rfl⟩

theorem contexts_kept_erased : ContextsKept system { system with contexts := system.contexts.erase id } := by
  have shrunk : ∀ other context, Finmap.lookup other (system.contexts.erase id) = some context → system.find other = some context := by
    intro other context found
    rw [dict_lookup_erase] at found
    split at found
    · cases found
    · exact found
  exact ⟨Nat.le_refl _, fun other context found => inv.ids other context (shrunk other context found),
    fun other context found _ => ⟨context, shrunk other context found, rfl⟩⟩

theorem admission_inv_removed : AdmissionInv config (system.removeIf id allowed).1 := by
  rcases remove_if_cases with same | ⟨context, found, -, erased⟩
  · rw [same]
    exact inv
  · rw [erased]
    have size := dict_size_erase found
    exact admission_inv_contexts inv (contexts_kept_erased inv) (by dsimp only; omega) rfl rfl rfl

theorem contexts_kept_inserted : ContextsKept system (system.insert call) := by
  refine ⟨Nat.le_succ _, fun id context found => ?_, fun id context found bound => ?_⟩
  · change Finmap.lookup id (system.contexts.insert system.nextId _) = some context at found
    rw [dict_lookup_insert] at found
    split at found
    · rename_i same
      rw [same]
      exact Nat.lt_succ_self _
    · exact Nat.lt_succ_of_lt (inv.ids id context found)
  · change Finmap.lookup id (system.contexts.insert system.nextId _) = some context at found
    rw [dict_lookup_insert, if_neg (Nat.ne_of_lt bound)] at found
    exact ⟨context, found, rfl⟩

theorem insert_size : dictSize (system.insert call).contexts = dictSize system.contexts + 1 := by
  refine dict_size_insert _ ?_
  cases found : Finmap.lookup system.nextId system.contexts with
  | none => rfl
  | some context => exact absurd (inv.ids system.nextId context found) (Nat.lt_irrefl _)

theorem room_of_check (held : system.creators[k]? = some creator) (checks : creator.checks = 1)
    (room : system.full config = false) (positive : 0 < config.maxContexts) :
    dictSize system.contexts + total Creator.admitted system.creators < config.maxContexts := by
  have member := List.mem_of_getElem? held
  have one := weight_le_total Creator.checks member
  have weights : total (fun other => other.admitted + other.checks) system.creators ≤
      total (fun other => other.counted + other.holdsLock) system.creators := by
    refine total_le_total _ _ _ fun other _ => ?_
    simp only [Creator.admitted, Creator.checks, Creator.counted, Creator.holdsLock]
    cases other.phase <;> simp [CreatePhase.admitted, CreatePhase.checks, CreatePhase.counted, CreatePhase.holdsLock]
  rw [total_add, total_add] at weights
  have lock : total Creator.holdsLock system.creators ≤ 1 := by
    rw [inv.lock]
    split <;> decide
  have counted := inv.counted
  rw [AdmissionSystem.full, Bool.and_eq_false_iff, decide_eq_false_iff_not, decide_eq_false_iff_not] at room
  omega

theorem lock_held (held : system.creators[k]? = some creator) (holds : creator.holdsLock = 1) :
    system.locked = true := by
  have one := weight_le_total Creator.holdsLock (List.mem_of_getElem? held)
  rw [inv.lock, holds] at one
  split at one
  · assumption
  · cases one

theorem create_move_same {before after : Creator} (contexts : next.contexts = system.contexts) (nextId : next.nextId = system.nextId)
    (lock : (if next.locked then 1 else 0) + before.holdsLock = (if system.locked then 1 else 0) + after.holdsLock)
    (counted : next.outstanding + before.counted = system.outstanding + after.counted)
    (cap : dictSize system.contexts + total Creator.admitted system.creators + after.admitted ≤ config.maxContexts + before.admitted)
    (candidates : after.CandidatesOk system) : CreateMove config system next before after where
  lock := lock
  counted := counted
  cap := by
    rw [contexts]
    exact cap
  contexts := contexts_kept_same inv contexts nextId
  candidates := candidates_ok_kept (contexts_kept_same inv contexts nextId) candidates

theorem create_move_admit (held : system.creators[k]? = some creator) (checks : creator.checks = 1)
    (room : system.full config = false) (positive : 0 < config.maxContexts) :
    CreateMove config system (admitContext config system creator.call).1 creator ⟨creator.call, (admitContext config system creator.call).2⟩ := by
  have free := room_of_check inv held checks room positive
  have phases : creator.holdsLock = 1 ∧ creator.counted = 0 := by
    simp only [Creator.checks, Creator.holdsLock, Creator.counted] at checks ⊢
    revert checks
    cases creator.phase <;> simp [CreatePhase.checks, CreatePhase.counted, CreatePhase.holdsLock]
  obtain ⟨holds, uncounted⟩ := phases
  have locked := lock_held inv held holds
  rw [admitContext]
  split
  all_goals
    refine create_move_same inv rfl rfl ?_ ?_ (Nat.le_add_right_of_le free) nofun
    · rw [holds, locked]
      rfl
    · rw [uncounted]
      rfl

theorem create_move_holding
    (same : (before.holdsLock, before.counted, before.admitted) = (after.holdsLock, after.counted, after.admitted))
    (candidates : Creator.CandidatesOk system ⟨call, after⟩) : CreateMove config system system ⟨call, before⟩ ⟨call, after⟩ := by
  obtain ⟨holds, rest⟩ := Prod.mk.inj same
  obtain ⟨counted, admitted⟩ := Prod.mk.inj rest
  exact create_move_same inv rfl rfl (congrArg _ holds) (congrArg _ counted) (Nat.add_le_add inv.cap (Nat.le_of_eq admitted.symm)) candidates

theorem create_move_removed
    (found : system.find id = some context) (holds : before.holdsLock = after.holdsLock) (counted : before.counted = after.counted)
    (admitted : after.admitted ≤ before.admitted + 1) (candidates : Creator.CandidatesOk system ⟨call, after⟩) :
    CreateMove config system { system with contexts := system.contexts.erase id } ⟨call, before⟩ ⟨call, after⟩ where
  lock := congrArg _ holds
  counted := congrArg _ counted
  cap := by
    have size := dict_size_erase found
    have cap := inv.cap
    change dictSize (system.contexts.erase id) + _ + after.admitted ≤ _ + before.admitted
    omega
  contexts := contexts_kept_erased inv
  candidates := candidates_ok_kept (contexts_kept_erased inv) candidates

theorem create_move_inserted (holds : before.holdsLock = after.holdsLock)
    (counted : before.counted = after.counted) (admitted : after.admitted + 1 ≤ before.admitted) (idle : after.candidates = none) :
    CreateMove config system (system.insert call) ⟨call, before⟩ ⟨call, after⟩ where
  lock := congrArg _ holds
  counted := congrArg _ counted
  cap := by
    have cap := inv.cap
    rw [insert_size inv]
    change _ + _ + after.admitted ≤ _ + before.admitted
    omega
  contexts := contexts_kept_inserted inv
  candidates := candidates_ok_idle idle

theorem create_move_refused (held : system.creators[k]? = some ⟨call, phase⟩) (holds : phase.holdsLock = 1) (counted : phase.counted = 0) :
    CreateMove config system (refuse system).1 ⟨call, phase⟩ ⟨call, (refuse system).2⟩ := by
  have locked := lock_held inv held holds
  refine create_move_same inv rfl rfl ?_ ?_ (Nat.le_trans inv.cap (Nat.le_add_right _ _)) nofun
  · rw [locked, Creator.holdsLock, holds]
    rfl
  · exact congrArg _ counted

theorem create_move_released (held : system.creators[k]? = some ⟨call, before⟩)
    (counts : before.counted = 1) (uncounted : after.counted = 0) (holds : before.holdsLock = after.holdsLock)
    (admitted : after.admitted ≤ before.admitted) (idle : after.candidates = none) :
    CreateMove config system { system with outstanding := system.outstanding - 1 } ⟨call, before⟩ ⟨call, after⟩ := by
  have one := weight_le_total Creator.counted (List.mem_of_getElem? held)
  rw [← inv.counted, Creator.counted, counts] at one
  refine create_move_same inv rfl rfl (congrArg _ holds) ?_ (Nat.add_le_add inv.cap admitted) (candidates_ok_idle idle)
  change system.outstanding - 1 + before.counted = system.outstanding + after.counted
  omega

theorem candidates_ok_chosen {want : String} {candidates : List Nat} (ok : Creator.CandidatesOk system ⟨call, .choosing want candidates⟩)
    (seen : ((system.find id).any fun context => context.authenticatedIdentity == some want) = true) :
    Creator.CandidatesOk system ⟨call, .choosing want (candidates ++ [id])⟩ := by
  intro want' chosen same
  cases same
  obtain ⟨identity, each⟩ := ok want candidates rfl
  refine ⟨identity, fun other member => ?_⟩
  rcases List.mem_append.mp member with old | new
  · exact each other old
  · rw [List.mem_singleton.mp new]
    cases found : system.find id with
    | none =>
      rw [found] at seen
      cases seen
    | some context =>
      refine ⟨inv.ids id context found, fun stored same => ?_⟩
      cases same
      rw [found] at seen
      exact eq_of_beq seen

theorem advance_create_move (held : system.creators[k]? = some creator) (positive : 0 < config.maxContexts)
    (taken : advanceCreate config system creator.call scanned creator.phase = some (next, after)) :
    CreateMove config system next creator { creator with phase := after } := by
  have ok := inv.candidates creator (List.mem_of_getElem? held)
  rcases creator with ⟨call, phase⟩
  cases phase with
  | locking =>
    rw [advanceCreate] at taken
    split at taken
    · cases taken
    · rename_i free
      cases taken
      refine create_move_same inv rfl rfl ?_ rfl (Nat.add_le_add inv.cap (Nat.le_refl _)) (candidates_ok_idle rfl)
      rw [if_neg free]
      rfl
  | checking =>
    rw [advanceCreate, Option.some.injEq] at taken
    cases room : system.full config with
    | true =>
      rw [room, if_pos rfl] at taken
      cases taken
      exact create_move_holding inv rfl (candidates_ok_idle rfl)
    | false =>
      rw [room, if_neg Bool.false_ne_true] at taken
      have move := create_move_admit inv held rfl room positive
      rw [taken] at move
      exact move
  | scanning now expired =>
    cases scanned with
    | none | some =>
      cases taken
      exact create_move_holding inv rfl (candidates_ok_idle rfl)
  | evicting now expired =>
    cases expired with
    | nil =>
      cases taken
      exact create_move_holding inv rfl (candidates_ok_idle rfl)
    | cons id rest =>
      simp only [advanceCreate, Option.some.injEq] at taken
      rcases remove_if_cases with same | ⟨context, found, -, erased⟩
      · rw [same] at taken
        cases taken
        exact create_move_holding inv rfl (candidates_ok_idle rfl)
      · rw [erased] at taken
        cases taken
        exact create_move_removed inv found rfl rfl (Nat.le_succ _) (candidates_ok_idle rfl)
  | rechecking =>
    rw [advanceCreate] at taken
    cases room : system.full config with
    | true =>
      rw [room, if_pos rfl] at taken
      split at taken
      · split at taken
        · rename_i want identity
          cases taken
          refine create_move_holding inv rfl fun want' candidates same => ?_
          cases same
          exact ⟨identity, nofun⟩
        · cases taken
          exact create_move_holding inv rfl (candidates_ok_idle rfl)
      · cases taken
        exact create_move_refused inv held rfl rfl
    | false =>
      rw [room, if_neg Bool.false_ne_true, Option.some.injEq] at taken
      have move := create_move_admit inv held rfl room positive
      rw [taken] at move
      exact move
  | choosing want candidates =>
    cases scanned with
    | none =>
      cases taken
      exact create_move_holding inv rfl ok
    | some id =>
      cases taken
      refine create_move_holding inv rfl ?_
      split
      · rename_i seen
        exact candidates_ok_chosen inv ok seen
      · exact ok
  | replacing want candidates =>
    cases candidates with
    | nil =>
      cases taken
      exact create_move_holding inv rfl (candidates_ok_idle rfl)
    | cons id rest =>
      simp only [advanceCreate] at taken
      rcases remove_if_cases with
        same | ⟨context, found, -, erased⟩
      · rw [same] at taken
        cases taken
        refine create_move_holding inv rfl fun want' candidates same => ?_
        cases same
        obtain ⟨identity, each⟩ := ok want (id :: rest) rfl
        exact ⟨identity, fun other member => each other (List.mem_cons_of_mem _ member)⟩
      · rw [erased] at taken
        cases taken
        exact create_move_removed inv found rfl rfl (Nat.le_refl _) (candidates_ok_idle rfl)
  | lastCheck =>
    rw [advanceCreate, Option.some.injEq] at taken
    cases room : system.full config with
    | true =>
      rw [room, if_pos rfl] at taken
      cases taken
      exact create_move_refused inv held rfl rfl
    | false =>
      rw [room, if_neg Bool.false_ne_true] at taken
      cases taken
      have free := room_of_check inv held rfl room positive
      exact create_move_same inv rfl rfl rfl rfl free (candidates_ok_idle rfl)
  | inserting replaced =>
    cases taken
    exact create_move_inserted inv rfl rfl (Nat.le_refl _) rfl
  | unlocking id replaced =>
    cases taken
    have locked := lock_held inv held rfl
    refine create_move_same inv rfl rfl ?_ rfl (Nat.add_le_add inv.cap (Nat.le_refl _)) (candidates_ok_idle rfl)
    rw [locked]
    rfl
  | reserved =>
    cases taken
    exact create_move_inserted inv rfl rfl (Nat.le_refl _) rfl
  | inserted | cancelled =>
    rw [advanceCreate] at taken
    split at taken
    · cases taken
    · cases taken
      exact create_move_released inv held rfl rfl rfl (Nat.le_refl _) rfl
  | created | refused | abandoned => cases taken

theorem contexts_kept_changed {old : AdmittedContext} (found : system.find id = some old) :
    ContextsKept system
      { system with contexts := system.contexts.insert id { context with authenticatedIdentity := old.authenticatedIdentity } } := by
  refine ⟨Nat.le_refl _, fun other stored at_ => ?_, fun other stored at_ _ => ?_⟩
  · change Finmap.lookup other (system.contexts.insert id _) = some stored at at_
    rw [dict_lookup_insert] at at_
    split at at_
    · rename_i same
      rw [same]
      exact inv.ids id old found
    · exact inv.ids other stored at_
  · change Finmap.lookup other (system.contexts.insert id _) = some stored at at_
    rw [dict_lookup_insert] at at_
    split at at_
    · rename_i same
      cases at_
      rw [same]
      exact ⟨old, found, rfl⟩
    · exact ⟨stored, at_, rfl⟩

theorem admission_inv_called :
    AdmissionInv config { system with creators := system.creators ++ [⟨call, .locking⟩] } where
  lock := by
    rw [total_append, inv.lock]
    rfl
  counted := by
    rw [total_append, ← inv.counted]
    rfl
  cap := by
    rw [total_append]
    exact inv.cap
  ids := inv.ids
  candidates := forall_added inv.candidates nofun

theorem admission_inv_cancelled (held : system.creators[k]? = some creator) (reserved : creator.phase = .reserved) :
    AdmissionInv config { system with creators := system.creators.set k { creator with phase := .cancelled } } := by
  rcases creator with ⟨call, phase⟩
  cases reserved
  refine admission_inv_move inv held ?_
  refine create_move_same inv rfl rfl rfl rfl (Nat.le_trans inv.cap (Nat.le_add_right _ _)) ?_
  intro want candidates chosen
  cases chosen

theorem admission_inv_step (positive : 0 < config.maxContexts)
    (taken : admissionStep config system action = some next) : AdmissionInv config next := by
  cases action with
  | call call =>
    cases taken
    exact admission_inv_called inv
  | advance k scanned =>
    obtain ⟨creator, held, advanced⟩ := Option.bind_eq_some_iff.mp taken
    obtain ⟨⟨moved, after⟩, stepped, rfl⟩ := Option.map_eq_some_iff.mp advanced
    exact admission_inv_move inv held
      (advance_create_move inv held positive stepped)
  | cancel k =>
    obtain ⟨creator, held, cancelled⟩ := Option.bind_eq_some_iff.mp taken
    split at cancelled
    · rename_i reserved
      cases cancelled
      exact admission_inv_cancelled inv held reserved
    · cases cancelled
  | removeContext | removeContextIfIdle | evictExpired =>
    cases taken
    exact admission_inv_removed inv
  | change id context =>
    obtain ⟨old, found, rfl⟩ := Option.map_eq_some_iff.mp taken
    exact admission_inv_contexts inv (contexts_kept_changed inv found)
      (Nat.le_of_eq (dict_size_overwrite _ found)) rfl rfl rfl
  | transport action =>
    obtain ⟨connections, -, rfl⟩ := Option.map_eq_some_iff.mp taken
    exact { inv with candidates := inv.candidates }
  | tick now =>
    rw [admissionStep] at taken
    split at taken
    · cases taken
      exact { inv with candidates := inv.candidates }
    · cases taken

end Frames

def CreatePhase.instant : CreatePhase → Nat
  | .scanning now _ | .evicting now _ => now
  | _ => 0

def Timely (system : AdmissionSystem) : Prop := ∀ creator ∈ system.creators, creator.phase.instant ≤ system.now

theorem advance_create_clock (past : phase.instant ≤ system.now)
    (taken : advanceCreate config system call scanned phase = some (next, after)) :
    next.now = system.now ∧ after.instant ≤ system.now := by
  have admitted : (admitContext config system call).1.now = system.now ∧ (admitContext config system call).2.instant ≤ system.now := by
    rw [admitContext]
    split <;> exact ⟨rfl, Nat.zero_le _⟩
  have removed : ∀ id allowed, (system.removeIf id allowed).1.now = system.now := by
    intro id allowed
    rcases remove_if_cases with same | ⟨context, -, -, erased⟩
    · rw [same]
    · rw [erased]
  unfold advanceCreate at taken
  grind [CreatePhase.instant, refuse, AdmissionSystem.insert]

theorem timely_step (timely : Timely system) (taken : admissionStep config system action = some next) :
    Timely next := by
  cases action with
  | call call =>
    cases taken
    exact forall_added timely (Nat.zero_le _)
  | advance k scanned =>
    obtain ⟨creator, held, advanced⟩ := Option.bind_eq_some_iff.mp taken
    obtain ⟨⟨moved, after⟩, stepped, rfl⟩ := Option.map_eq_some_iff.mp advanced
    obtain ⟨clock, past⟩ := advance_create_clock (timely creator (List.mem_of_getElem? held)) stepped
    change ∀ other ∈ system.creators.set k _, other.phase.instant ≤ moved.now
    rw [clock]
    exact forall_set timely past
  | cancel k =>
    obtain ⟨creator, -, cancelled⟩ := Option.bind_eq_some_iff.mp taken
    split at cancelled
    · cases cancelled
      exact forall_set timely (Nat.zero_le _)
    · cases cancelled
  | removeContext | removeContextIfIdle | evictExpired =>
    cases taken
    rcases remove_if_cases with same | ⟨context, -, -, erased⟩
    · rw [same]
      exact timely
    · rw [erased]
      exact timely
  | change id context =>
    obtain ⟨old, -, rfl⟩ := Option.map_eq_some_iff.mp taken
    exact timely
  | transport action =>
    obtain ⟨connections, -, rfl⟩ := Option.map_eq_some_iff.mp taken
    exact timely
  | tick now =>
    rw [admissionStep] at taken
    split at taken
    · rename_i later
      cases taken
      exact fun creator member => Nat.le_trans (timely creator member) later
    · cases taken

-- What the Initialize path may take out of the map: contexts without backend sessions
-- that are reapable at the clock reading its eviction pass started with, and one
-- context of the caller that is idle and whose transport is dead or is the caller's own.
def ReplacingRemovals (config : AdmissionConfig) (system : AdmissionSystem) : Prop :=
  ∀ (k : Nat) creator scanned next id context, system.creators[k]? = some creator → creator.call.replaces = true →
    admissionStep config system (.advance k scanned) = some next → system.find id = some context → next.find id = none →
    (∃ now ≤ system.now, ∃ expired, creator.phase = .evicting now expired ∧ id ∈ expired ∧
        context.isReapable config system.connections now = true) ∧ context.inFlight = 0 ∧ context.hasOpenBackendSessions = false ∨
      creator.call.identity = context.authenticatedIdentity ∧ context.authenticatedIdentity ≠ none ∧ context.inFlight ≤ 0 ∧
        (context.binding.isTransportDead system.connections = true ∨
          context.binding.sameConnectionAs system.connections creator.call.connection = true)

theorem reapable_idle {connections : ConnectionSystem} {now : Nat}
    (reapable : context.isReapable config connections now = true) : context.inFlight = 0 := by
  rw [AdmittedContext.isReapable] at reapable
  split at reapable
  · cases reapable
  · rename_i idle
    exact not_not.mp idle

theorem erased_only {other : Nat} (found : system.find other = some context)
    (gone : Finmap.lookup other (system.contexts.erase id) = none) : other = id := by
  rw [dict_lookup_erase] at gone
  split at gone
  · assumption
  · rw [AdmissionSystem.find, gone] at found
    cases found

theorem advance_create_contexts (taken : advanceCreate config system call scanned phase = some (next, after)) :
    next.contexts = system.contexts ∧ next.nextId = system.nextId ∨ next = system.insert call ∨
      (∃ now id rest, phase = .evicting now (id :: rest) ∧
        next = (system.removeIf id (AdmittedContext.expiredSessionless config system.connections now)).1) ∨
      ∃ want id rest, phase = .replacing want (id :: rest) ∧
        next = (system.removeIf id (AdmittedContext.isReplaceable system.connections call.connection)).1 := by
  have admitted : (admitContext config system call).1.contexts = system.contexts ∧ (admitContext config system call).1.nextId = system.nextId := by
    rw [admitContext]
    split <;> exact ⟨rfl, rfl⟩
  cases phase with
  | evicting now expired =>
    cases expired with
    | nil =>
      cases taken
      exact .inl ⟨rfl, rfl⟩
    | cons id rest =>
      cases taken
      exact .inr (.inr (.inl ⟨now, id, rest, rfl, rfl⟩))
  | replacing want candidates =>
    cases candidates with
    | nil =>
      cases taken
      exact .inl ⟨rfl, rfl⟩
    | cons id rest =>
      simp only [advanceCreate] at taken
      refine .inr (.inr (.inr ⟨want, id, rest, rfl, ?_⟩))
      split at taken
      · rename_i removed
        cases taken
        rw [removed]
      · rename_i removed
        cases taken
        rw [removed]
  | inserting | reserved =>
    cases taken
    exact .inr (.inl rfl)
  | checking =>
    rw [advanceCreate, Option.some.injEq] at taken
    split at taken
    · cases taken
      exact .inl ⟨rfl, rfl⟩
    · rw [taken] at admitted
      exact .inl admitted
  | rechecking =>
    rw [advanceCreate] at taken
    split at taken
    · split at taken
      · split at taken <;> cases taken <;> exact .inl ⟨rfl, rfl⟩
      · cases taken
        exact .inl ⟨rfl, rfl⟩
    · rw [Option.some.injEq] at taken
      rw [taken] at admitted
      exact .inl admitted
  | lastCheck =>
    rw [advanceCreate, Option.some.injEq] at taken
    split at taken <;> cases taken <;> exact .inl ⟨rfl, rfl⟩
  | scanning | choosing => cases scanned <;> cases taken <;> exact .inl ⟨rfl, rfl⟩
  | unlocking id replaced =>
    cases taken
    exact .inl ⟨rfl, rfl⟩
  | locking | inserted id | cancelled =>
    rw [advanceCreate] at taken
    split at taken <;> cases taken
    exact .inl ⟨rfl, rfl⟩
  | created | refused | abandoned => cases taken

theorem inserted_kept (found : system.find id = some context) : (system.insert call).find id ≠ none := by
  intro gone
  change Finmap.lookup id (system.contexts.insert system.nextId _) = none at gone
  rw [dict_lookup_insert] at gone
  split at gone
  · cases gone
  · rw [AdmissionSystem.find, gone] at found
    cases found

theorem replacing_removals (inv : AdmissionInv config system) (timely : Timely system) :
    ReplacingRemovals config system := by
  intro k creator scanned next id context held _ taken found gone
  obtain ⟨same, at_, advanced⟩ := Option.bind_eq_some_iff.mp taken
  cases held.symm.trans at_
  obtain ⟨⟨moved, after⟩, stepped, rfl⟩ := Option.map_eq_some_iff.mp advanced
  change moved.find id = none at gone
  rcases advance_create_contexts stepped with
    ⟨kept, -⟩ | rfl | ⟨now, victim, rest, phase, rfl⟩ | ⟨want, victim, rest, phase, rfl⟩
  · rw [AdmissionSystem.find, kept, ← AdmissionSystem.find, found] at gone
    cases gone
  · exact absurd gone (inserted_kept found)
  · rcases remove_if_cases with same | ⟨stored, present, expired, erased⟩
    · rw [same, found] at gone
      cases gone
    · rw [erased] at gone
      cases erased_only found gone
      cases found.symm.trans present
      rw [AdmittedContext.expiredSessionless, Bool.and_eq_true, Bool.not_eq_true'] at expired
      have past := timely creator (List.mem_of_getElem? held)
      rw [phase] at past
      exact .inl ⟨⟨now, past, _, phase, List.mem_cons_self, expired.1⟩, reapable_idle expired.1, expired.2⟩
  · rcases remove_if_cases with
      same | ⟨stored, present, replaceable, erased⟩
    · rw [same, found] at gone
      cases gone
    · rw [erased] at gone
      cases erased_only found gone
      cases found.symm.trans present
      have ok := inv.candidates creator (List.mem_of_getElem? held) want (id :: rest) (by rw [phase]; rfl)
      have mine := (ok.2 id List.mem_cons_self).2 context found
      rw [AdmittedContext.isReplaceable, Bool.and_eq_true, decide_eq_true_eq, Bool.or_eq_true] at replaceable
      exact .inr ⟨ok.1.trans mine.symm, (by rw [mine]; exact Option.some_ne_none want), replaceable⟩

def aliceCreates : CreateCall := ⟨some "alice", none, false⟩

def aliceReplaces : CreateCall := ⟨some "alice", none, true⟩

def bobCreates : CreateCall := ⟨some "bob", none, false⟩

def oneContext : AdmissionConfig := ⟨1, 3600, 86400⟩

def createdBy (call : CreateCall) : List AdmissionAction := .call call :: List.replicate 4 (.advance 0 none)

def orphanReplaced : List AdmissionAction :=
  createdBy aliceCreates ++ [.change 0 ⟨none, 0, 0, 0, true, ⟨none, []⟩⟩, .call aliceReplaces] ++
    [.advance 1 none, .advance 1 none, .advance 1 none, .advance 1 none, .advance 1 none, .advance 1 (some 0), .advance 1 none]

def strangerExpired : List AdmissionAction :=
  createdBy bobCreates ++ [.tick 4000, .call aliceReplaces, .advance 1 none, .advance 1 none, .advance 1 (some 0), .advance 1 none]

end Pkcs11Proxy.Server
