import Pkcs11Proxy.Server.HandlePaths

namespace Pkcs11Proxy.Server

open Lib Pkcs11Proxy.Types

variable {wire : UInt64} {key backendSession : BackendHandle} {session : VirtualHandle}
  {state : GateState}

variable {sanitizeInputs : Bool} {request : SetOperationStateRequest}

section OperationState

variable (env : GateEnv)

structure StateKeysReach (sanitizeInputs : Bool) (request : SetOperationStateRequest) (state : GateState)
    (backendSession encryption authentication : BackendHandle) : Prop where
  resolved : resolveStateHandles state.context request.session request.encryptionKey request.authenticationKey =
    .ok (backendSession, encryption, authentication)
  encryptionUse : encryption ≠ ⟨0⟩ → ensurePrivateUseAllowed env state.context request.session ⟨request.encryptionKey⟩
    backendSession encryption = .ok ()
  authenticationUse : authentication ≠ ⟨0⟩ → ensurePrivateUseAllowed env state.context request.session ⟨request.authenticationKey⟩
    backendSession authentication = .ok ()
  sanitized : checkSanitize sanitizeInputs request.operationStateNullLen = .ok ()

def StateKeySafe (state : GateState) (session : VirtualHandle) (wire : UInt64) (backendSession key : BackendHandle) : Prop :=
  key ≠ ⟨0⟩ → (env.policy.perClassActive = true → env.policy.perObjectActive = true) ∧
    (wire ≠ 0 → env.policy.perObjectActive = true → gateAdmits env state session ⟨wire⟩ backendSession key = true)

def RequestSafe (state : GateState) : HandleRequest → Prop
  | .setOperationState sanitizeInputs request => ∀ backendSession encryption authentication,
      StateKeysReach env sanitizeInputs request state backendSession encryption authentication →
        StateKeySafe env state request.session request.encryptionKey backendSession encryption ∧
        StateKeySafe env state request.session request.authenticationKey backendSession authentication
  | _ => True

def stateKeyPassed (state : GateState) (session : VirtualHandle) (wire : UInt64) (backendSession key : BackendHandle) : BackendHandle :=
  if env.policy.perObjectActive && !gateAdmits env state session ⟨wire⟩ backendSession key then ⟨0⟩ else key

def stateKeyCalls (state : GateState) (session : VirtualHandle) (wire : UInt64) (backendSession key : BackendHandle) : List GateCall :=
  if env.policy.perObjectActive && key ≠ ⟨0⟩ then [⟨⟨wire⟩, key, stateKeyPassed env state session wire backendSession key⟩] else []

variable {env}

theorem gate_if_per_object_run (state : GateState) (session : VirtualHandle) (wire : UInt64) (backendSession key : BackendHandle) :
    ∃ judged, Learned env ⟨wire⟩ backendSession key state judged ∧
      gateIfPerObject env session wire backendSession key state =
        .ok (stateKeyPassed env state session wire backendSession key)
          { judged with gated := judged.gated ++ stateKeyCalls env state session wire backendSession key } := by
  unfold gateIfPerObject stateKeyCalls
  by_cases active : (env.policy.perObjectActive && decide (key ≠ ⟨0⟩)) = true
  · obtain ⟨judged, learned, ran⟩ := gate_answers
    have answer : (if gateAdmits env state session ⟨wire⟩ backendSession key then key else ⟨0⟩) =
        stateKeyPassed env state session wire backendSession key := by
      have objects := (Bool.and_eq_true_iff.mp active).1
      rw [stateKeyPassed, objects]
      cases gateAdmits env state session ⟨wire⟩ backendSession key <;> rfl
    rw [answer] at ran
    rw [if_pos active, if_pos active]
    exact ⟨judged, learned, ran⟩
  · have answer : stateKeyPassed env state session wire backendSession key = key := by
      unfold stateKeyPassed
      split
      · grind
      · rfl
    refine ⟨state, learned_refl env ⟨wire⟩ backendSession key state, ?_⟩
    rw [if_neg active, if_neg active, List.append_nil, answer]
    rfl

theorem state_key_passed_learned {judged : GateState} (session : VirtualHandle) {other : UInt64}
    {otherKey : BackendHandle} (learned : Learned env ⟨wire⟩ backendSession key state judged)
    (agree : other = wire → otherKey = key) (gated : List GateCall) :
    stateKeyPassed env { judged with gated := gated } session other backendSession otherKey =
      stateKeyPassed env state session other backendSession otherKey := by
  unfold stateKeyPassed
  have same := gate_admits_learned env ⟨wire⟩ backendSession key learned session ⟨other⟩
    fun equal => agree (VirtualHandle.mk.inj equal)
  rw [← same]
  rfl

theorem resolve_state_key_ok {mapped : Option BackendHandle}
    (resolved : resolveStateKey mapped wire = .ok key) : key = backendOrZero mapped ∧ (wire ≠ 0 → mapped = some key) := by
  unfold resolveStateKey at resolved
  cases mapped with
  | some backend =>
    cases resolved
    exact ⟨rfl, fun _ => rfl⟩
  | none =>
    simp only at resolved
    split at resolved
    · rename_i zero
      cases resolved
      exact ⟨rfl, fun nonzero => absurd zero nonzero⟩
    · cases resolved

theorem resolve_state_handles_ok {context : Option LogicalClientInstance} {encryptionKey authenticationKey : UInt64}
    {encryption authentication : BackendHandle}
    (resolved : resolveStateHandles context session encryptionKey authenticationKey = .ok (backendSession, encryption, authentication)) :
    beginMessageOperationTransitions context session = .ok () ∧
      resolveStateKey (objectMapping context encryptionKey) encryptionKey = .ok encryption ∧
      resolveStateKey (objectMapping context authenticationKey) authenticationKey = .ok authentication := by
  cases context with
  | none => cases resolved
  | some context =>
    simp only [resolveStateHandles, objectMapping, Option.bind_some, beginMessageOperationTransitions] at resolved ⊢
    cases verdict : sessionVerdict context session with
    | error rv =>
      rw [verdict] at resolved
      cases resolved
    | ok backend =>
      rw [verdict] at resolved
      cases found : context.sessionHandles.resolve session with
      | none =>
        rw [found] at resolved
        cases resolved
      | some backend =>
        rw [found] at resolved
        cases first : resolveStateKey (context.objectHandles.resolve ⟨encryptionKey⟩) encryptionKey with
        | error rv =>
          rw [first] at resolved
          cases resolved
        | ok firstKey =>
          rw [first] at resolved
          cases second : resolveStateKey (context.objectHandles.resolve ⟨authenticationKey⟩) authenticationKey with
          | error rv =>
            rw [second] at resolved
            cases resolved
          | ok secondKey =>
            rw [second] at resolved
            cases resolved
            exact ⟨rfl, rfl, rfl⟩

theorem begin_transitions_fixed {context other : Option LogicalClientInstance}
    (same : other.map LogicalClientInstance.fixed = context.map LogicalClientInstance.fixed) (session : VirtualHandle) :
    beginMessageOperationTransitions other session = beginMessageOperationTransitions context session := by
  cases context with
  | none =>
    cases other with
    | none => rfl
    | some found => cases same
  | some before =>
    cases other with
    | none => cases same
    | some found =>
      have handles : found.sessionHandles = before.sessionHandles := congrArg Prod.fst (Option.some.inj same)
      rw [beginMessageOperationTransitions, beginMessageOperationTransitions, handles]

variable {object : VirtualHandle} {backendObject : BackendHandle}

theorem ensure_use_run
    (allowed : backendObject ≠ ⟨0⟩ → ensurePrivateUseAllowed env state.context session object backendSession backendObject = .ok ()) :
    ensureUseIfKnown env session object backendSession backendObject state = .ok () state := by
  rw [ensureUseIfKnown, get_bind]
  by_cases known : backendObject ≠ ⟨0⟩
  · rw [if_pos known, allowed known]
    rfl
  · rw [if_neg known]
    rfl

theorem ensure_use_refused
    (refused : ¬ (backendObject ≠ ⟨0⟩ → ensurePrivateUseAllowed env state.context session object backendSession backendObject = .ok ())) :
    ∃ rv, ensureUseIfKnown env session object backendSession backendObject state = .error rv state := by
  rw [ensureUseIfKnown, get_bind]
  obtain ⟨known, denied⟩ := Classical.not_imp.mp refused
  rw [if_pos known]
  cases answer : ensurePrivateUseAllowed env state.context session object backendSession backendObject with
  | ok value => exact absurd answer denied
  | error rv => exact ⟨rv, rfl⟩

theorem set_operation_state_run
    {encryption authentication : BackendHandle}
    (reach : StateKeysReach env sanitizeInputs request state backendSession encryption authentication) :
    ∃ final, setOperationState env sanitizeInputs request state = .ok () final ∧
      final.gated = state.gated ++ stateKeyCalls env state request.session request.encryptionKey backendSession encryption ++
        stateKeyCalls env state request.session request.authenticationKey backendSession authentication ∧
      final.dispatched = some ⟨backendSession,
        [⟨request.encryptionKey, stateKeyPassed env state request.session request.encryptionKey backendSession encryption, true⟩,
          ⟨request.authenticationKey, stateKeyPassed env state request.session request.authenticationKey backendSession authentication,
            true⟩]⟩ := by
  obtain ⟨begins, first, second⟩ := resolve_state_handles_ok reach.resolved
  have agree : request.authenticationKey = request.encryptionKey → authentication = encryption := by
    intro same
    rw [same, first] at second
    exact (Except.ok.inj second).symm
  obtain ⟨judged, learned, gated⟩ := gate_if_per_object_run state request.session request.encryptionKey backendSession encryption
  let between : GateState :=
    { judged with gated := judged.gated ++ stateKeyCalls env state request.session request.encryptionKey backendSession encryption }
  have passed := state_key_passed_learned request.session learned agree between.gated
  obtain ⟨last, more, gatedToo⟩ :=
    gate_if_per_object_run between request.session request.authenticationKey backendSession authentication
  have calls : stateKeyCalls env between request.session request.authenticationKey backendSession authentication =
      stateKeyCalls env state request.session request.authenticationKey backendSession authentication := by
    unfold stateKeyCalls
    rw [passed]
  rw [passed, calls] at gatedToo
  have still : beginMessageOperationTransitions last.context request.session = .ok () := by
    rw [begin_transitions_fixed (more.fixed.trans learned.fixed)]
    exact begins
  refine ⟨{ last with
      gated := last.gated ++ stateKeyCalls env state request.session request.authenticationKey backendSession authentication
      dispatched := some ⟨backendSession, _⟩ }, ?_, ?_, rfl⟩
  · rw [setOperationState, get_bind, reach.resolved]
    rw [bind_of_ok (rfl : orRefuse (.ok (backendSession, encryption, authentication)) state = .ok _ state)]
    dsimp only
    rw [bind_of_ok (ensure_use_run reach.encryptionUse)]
    rw [bind_of_ok
      (ensure_use_run reach.authenticationUse)]
    rw [bind_of_ok gated, bind_of_ok gatedToo, reach.sanitized]
    rw [bind_of_ok (rfl : orRefuse (.ok ()) _ = .ok () _), get_bind, still]
    rfl
  · rw [more.gated]
    change judged.gated ++ _ ++ _ = _
    rw [learned.gated]

theorem set_operation_state_refused
    (refused : ¬ ∃ backendSession encryption authentication,
      StateKeysReach env sanitizeInputs request state backendSession encryption authentication) :
    ∃ rv final, setOperationState env sanitizeInputs request state = .error rv final ∧ final.dispatched = state.dispatched := by
  rw [setOperationState, get_bind]
  cases resolved : resolveStateHandles state.context request.session request.encryptionKey request.authenticationKey with
  | error rv => exact ⟨rv, state, rfl, rfl⟩
  | ok handles =>
    obtain ⟨backendSession, encryption, authentication⟩ := handles
    rw [bind_of_ok (rfl : orRefuse (.ok (backendSession, encryption, authentication)) state = .ok _ state)]
    dsimp only
    by_cases firstUse : encryption ≠ ⟨0⟩ → ensurePrivateUseAllowed env state.context request.session ⟨request.encryptionKey⟩
        backendSession encryption = .ok ()
    · rw [bind_of_ok (ensure_use_run firstUse)]
      by_cases secondUse : authentication ≠ ⟨0⟩ → ensurePrivateUseAllowed env state.context request.session ⟨request.authenticationKey⟩
          backendSession authentication = .ok ()
      · rw [bind_of_ok
          (ensure_use_run secondUse)]
        obtain ⟨judged, learned, gated⟩ :=
          gate_if_per_object_run state request.session request.encryptionKey backendSession encryption
        rw [bind_of_ok gated]
        obtain ⟨last, more, gatedToo⟩ := gate_if_per_object_run
          { judged with gated := judged.gated ++ stateKeyCalls env state request.session request.encryptionKey backendSession encryption }
          request.session request.authenticationKey backendSession authentication
        rw [bind_of_ok gatedToo]
        cases sanitized : checkSanitize sanitizeInputs request.operationStateNullLen with
        | error rv => exact ⟨rv, _, rfl, more.dispatched.trans learned.dispatched⟩
        | ok value => exact absurd ⟨_, _, _, resolved, firstUse, secondUse, sanitized⟩ refused
      · obtain ⟨rv, denied⟩ := ensure_use_refused secondUse
        exact ⟨rv, state, bind_of_error denied, rfl⟩
    · obtain ⟨rv, denied⟩ := ensure_use_refused firstUse
      exact ⟨rv, state, bind_of_error denied, rfl⟩

theorem state_key_passable (session : VirtualHandle) (backendSession : BackendHandle)
    (resolved : resolveStateKey (objectMapping state.context wire) wire = .ok key) (gated : List GateCall)
    (listed : ∀ call, call ∈ stateKeyCalls env state session wire backendSession key → call ∈ gated)
    (all : ∀ call ∈ gated, env.policy.perObjectActive = true) :
    Passable env state.context gated ⟨wire, stateKeyPassed env state session wire backendSession key, true⟩ ↔
      StateKeySafe env state session wire backendSession key := by
  have mapped := (resolve_state_key_ok resolved).2
  by_cases objects : env.policy.perObjectActive = true
  · by_cases nonzero : key = ⟨0⟩
    · have zero : stateKeyPassed env state session wire backendSession key = ⟨0⟩ := by
        unfold stateKeyPassed
        split
        · rfl
        · exact nonzero
      refine ⟨fun _ found => absurd nonzero found, fun _ => ⟨fun _ found => absurd zero found, fun _ wired => ?_⟩⟩
      rw [mapped wired, zero, nonzero]
    · have calls : ⟨⟨wire⟩, key, stateKeyPassed env state session wire backendSession key⟩ ∈ gated := by
        apply listed
        simp [stateKeyCalls, objects, nonzero]
      by_cases admitted : gateAdmits env state session ⟨wire⟩ backendSession key = true
      · have kept : stateKeyPassed env state session wire backendSession key = key := by
          simp [stateKeyPassed, admitted]
        rw [kept] at calls ⊢
        exact ⟨fun _ _ => ⟨fun _ => objects, fun _ _ => admitted⟩, fun _ => ⟨fun _ _ => calls, fun _ wired => mapped wired⟩⟩
      · have zero : stateKeyPassed env state session wire backendSession key = ⟨0⟩ := by
          simp [stateKeyPassed, objects, admitted]
        rw [zero]
        constructor
        · intro passable _
          refine ⟨fun _ => objects, fun wired _ => ?_⟩
          have lost := (mapped wired).symm.trans (passable.2 rfl wired)
          exact absurd (Option.some.inj lost) nonzero
        · intro safe
          refine ⟨fun _ found => absurd rfl found, fun _ wired => ?_⟩
          exact absurd ((safe nonzero).2 wired objects) admitted
  · have kept : stateKeyPassed env state session wire backendSession key = key := by
      simp [stateKeyPassed, objects]
    rw [kept]
    constructor
    · intro passable nonzero
      refine ⟨fun classes => ?_, fun _ active => absurd active objects⟩
      exact absurd (all _ (passable.1 (by simp [restrictsObjects, classes]) nonzero)) objects
    · intro safe
      refine ⟨fun active nonzero => ?_, fun _ wired => mapped wired⟩
      have classes : env.policy.perClassActive = true := by
        simpa [restrictsObjects, objects] using active
      exact absurd ((safe nonzero).1 classes) objects

theorem state_key_calls_active
    {call : GateCall} (member : call ∈ stateKeyCalls env state session wire backendSession key) : env.policy.perObjectActive = true := by
  unfold stateKeyCalls at member
  split at member
  · rename_i active
    exact (Bool.and_eq_true_iff.mp active).1
  · cases member

end OperationState

section Coverage

variable (env : GateEnv)

def endState {α : Type} : EStateM.Result CkRv GateState α → GateState
  | .ok _ state => state
  | .error _ state => state

theorem idle_covered {start : Option LogicalClientInstance} (idle : state.dispatched = none) :
    Covered env start state := by
  intro operation made
  rw [idle] at made
  cases made

theorem outcomes_covered {α : Type} {prog : GateM α} (idle : state.dispatched = none)
    (triple : Outcomes (Serving env state.context []) prog (fun _ => Covered env state.context) Idle) :
    Covered env state.context (endState (prog state)) := by
  have serving : Serving env state.context [] state := ⟨rfl, idle, nofun⟩
  cases ran : prog state with
  | ok value final => exact triple.ends state value final ran serving
  | error rv final => exact idle_covered env (triple.fails state rv final ran serving)

theorem set_operation_state_covered
    (fresh : state.gated = []) (idle : state.dispatched = none) :
    Covered env state.context (endState (setOperationState env sanitizeInputs request state)) ↔
      RequestSafe env state (.setOperationState sanitizeInputs request) := by
  by_cases reached : ∃ backendSession encryption authentication,
      StateKeysReach env sanitizeInputs request state backendSession encryption authentication
  · obtain ⟨backendSession, encryption, authentication, reach⟩ := reached
    obtain ⟨final, ran, gated, dispatched⟩ :=
      set_operation_state_run reach
    obtain ⟨-, first, second⟩ := resolve_state_handles_ok reach.resolved
    have active : ∀ call ∈ final.gated, env.policy.perObjectActive = true := by
      intro call member
      rw [gated, fresh, List.nil_append] at member
      rcases List.mem_append.mp member with early | late
      · exact state_key_calls_active early
      · exact state_key_calls_active late
    have left := state_key_passable request.session backendSession first final.gated
      (fun call member => by rw [gated]; simp [member]) active
    have right := state_key_passable request.session backendSession second final.gated
      (fun call member => by rw [gated]; simp [member]) active
    rw [ran]
    constructor
    · intro covered otherSession otherEncryption otherAuthentication otherReach
      have same := otherReach.resolved.symm.trans reach.resolved
      cases same
      exact ⟨left.mp (covered _ dispatched _ (by simp)), right.mp (covered _ dispatched _ (by simp))⟩
    · intro safe operation made handle member
      obtain ⟨firstSafe, secondSafe⟩ := safe backendSession encryption authentication reach
      have made := dispatched.symm.trans made
      cases made
      rcases List.mem_pair.mp member with rfl | rfl
      · exact left.mpr firstSafe
      · exact right.mpr secondSafe
  · obtain ⟨rv, final, ran, kept⟩ := set_operation_state_refused reached
    rw [ran]
    exact ⟨fun _ _ _ _ reach => absurd ⟨_, _, _, reach⟩ reached, fun _ => idle_covered env (kept.trans idle)⟩

theorem dispatches_last {α : Type} {first : GateM α} {second : α → GateM Unit} {final : GateState}
    (last : ∀ value next, second value next = .ok () final → final.dispatched ≠ none)
    (ran : (first >>= second) state = .ok () final) : final.dispatched ≠ none := by
  obtain ⟨value, next, -, ended⟩ := bind_ok ran
  exact last value next ended

theorem serve_dispatches {request : HandleRequest} {final : GateState} (ran : serve env request state = .ok () final) :
    final.dispatched ≠ none := by
  have made : ∀ operation next, dispatch operation next = .ok () final → final.dispatched ≠ none := by
    rintro operation next ⟨⟩
    exact Option.some_ne_none _
  cases request with
  | useHandle session object staleRv | useTwoObjects session first second => exact dispatches_last (fun _ => made _) ran
  | deriveSp800108 session baseKey dataParams =>
    exact dispatches_last (fun _ _ => dispatches_last fun _ => made _) ran
  | setOperationState sanitizeInputs request =>
    by_cases reached : ∃ backendSession encryption authentication,
        StateKeysReach env sanitizeInputs request state backendSession encryption authentication
    · obtain ⟨_, _, _, reach⟩ := reached
      obtain ⟨_, ended, -, dispatched⟩ := set_operation_state_run reach
      cases ended.symm.trans ran
      rw [dispatched]
      exact Option.some_ne_none _
    · obtain ⟨rv, _, refused, -⟩ := set_operation_state_refused reached
      cases refused.symm.trans ran

-- A request that is not refused calls the backend, and what it passes on is covered
-- exactly under the condition.
theorem request_covered (context : Option LogicalClientInstance) (cache : Dict BackendSlotId (Text × Text)) (request : HandleRequest) :
    (∀ final, serve env request ⟨context, cache, [], none⟩ = .ok () final → final.dispatched ≠ none) ∧
      (Covered env context (endState (serve env request ⟨context, cache, [], none⟩)) ↔
        RequestSafe env ⟨context, cache, [], none⟩ request) := by
  refine ⟨fun final => serve_dispatches env, ?_⟩
  cases request with
  | useHandle session object staleRv =>
    refine ⟨fun _ => trivial, fun _ => outcomes_covered env rfl ?_⟩
    apply outcomes_bind _ outcomes_session_and_handle
    intro resolved
    exact outcomes_dispatch fun _ member => member
  | useTwoObjects session first second =>
    refine ⟨fun _ => trivial, fun _ => outcomes_covered env rfl ?_⟩
    apply outcomes_bind _ outcomes_two_objects
    intro resolved
    apply outcomes_dispatch
    intro handle member
    simp only [List.mem_cons] at member ⊢
    tauto
  | deriveSp800108 session baseKey dataParams =>
    refine ⟨fun _ => trivial, fun _ => outcomes_covered env rfl ?_⟩
    apply outcomes_bind _ outcomes_session_and_handle
    intro resolved
    apply outcomes_bind _ (outcomes_data_params _)
    intro passed
    apply outcomes_dispatch
    intro handle member
    simp only [List.mem_cons, List.mem_append] at member ⊢
    tauto
  | setOperationState sanitizeInputs request => exact set_operation_state_covered env rfl rfl

def grantConfig (classes : Option (List Text)) (objects : Option (List ObjectAclSpec)) : AuthConfig :=
  ⟨false, [⟨"uid=1000".toList, .specific [.rich ⟨"label:T".toList, classes, none, .allow, objects⟩]⟩], none⟩

def grantPolicy (classes : Option (List UInt64)) (objects : Option (List ObjectAcl)) : TokenPolicy :=
  ⟨[("uid=1000".toList, .specific [⟨.label "T".toList, classes, none, .allow, objects⟩])], false, true, none,
    objects.isSome, classes.isSome, false⟩

def grantedId (text : Text) : Except String Bytes := if text = "09".toList then .ok [9] else .error ""

def keyEnv (policy : TokenPolicy) : GateEnv where
  policy := policy
  identity := some "uid=1000".toList
  generation := 0
  tokenInfo _ := some ("T".toList, "1".toList)
  fetchObjectMetadata _ _ := some ⟨[7], some 3, true⟩
  backendObjectIsPrivate _ _ := false
  otherLogin _ := false

def keyContext : LogicalClientInstance :=
  let opened := (LogicalClientInstance.new.registerSession ⟨0x10⟩ ⟨0⟩).1
  { opened with objectHandles := (opened.objectHandles.insert ⟨0x20⟩).1 }

def restoreWithKey : HandleRequest := .setOperationState false ⟨⟨1⟩, none, 1, 0⟩

def servedKey (policy : TokenPolicy) : GateState :=
  endState (serve (keyEnv policy) restoreWithKey ⟨some keyContext, ∅, [], none⟩)

-- Under a class grant the key goes on with no gate asked; under an object grant a
-- denied key goes on as no key.
theorem operation_state_key_uncovered :
    (TokenPolicy.fromConfig (fun _ => .error "") grantedId (grantConfig (some ["secret_key".toList]) none) = .ok (grantPolicy (some [4]) none) ∧
        (servedKey (grantPolicy (some [4]) none)).dispatched = some ⟨⟨0x10⟩, [⟨1, ⟨0x20⟩, true⟩, ⟨0, ⟨0⟩, true⟩]⟩ ∧
        (servedKey (grantPolicy (some [4]) none)).gated = [] ∧
        ¬ Covered (keyEnv (grantPolicy (some [4]) none)) (some keyContext) (servedKey (grantPolicy (some [4]) none))) ∧
      TokenPolicy.fromConfig (fun _ => .error "") grantedId (grantConfig none (some [.bare "09".toList])) =
          .ok (grantPolicy none (some [⟨[9], none⟩])) ∧
        (servedKey (grantPolicy none (some [⟨[9], none⟩]))).dispatched = some ⟨⟨0x10⟩, [⟨1, ⟨0⟩, true⟩, ⟨0, ⟨0⟩, true⟩]⟩ ∧
        ¬ Covered (keyEnv (grantPolicy none (some [⟨[9], none⟩]))) (some keyContext) (servedKey (grantPolicy none (some [⟨[9], none⟩]))) := by
  have ungated : (servedKey (grantPolicy (some [4]) none)).gated = [] := by decide +kernel
  have passed : (servedKey (grantPolicy (some [4]) none)).dispatched = some ⟨⟨0x10⟩, [⟨1, ⟨0x20⟩, true⟩, ⟨0, ⟨0⟩, true⟩]⟩ := by
    decide +kernel
  have dropped : (servedKey (grantPolicy none (some [⟨[9], none⟩]))).dispatched = some ⟨⟨0x10⟩, [⟨1, ⟨0⟩, true⟩, ⟨0, ⟨0⟩, true⟩]⟩ := by
    decide +kernel
  refine ⟨⟨rfl, passed, ungated, fun covered => ?_⟩, rfl, dropped, fun covered => ?_⟩
  · have asked := (covered _ passed _ List.mem_cons_self).1 rfl (by decide)
    cases asked
  · have kept := (covered _ dropped _ List.mem_cons_self).2 rfl (by decide)
    revert kept
    decide +kernel

end Coverage

end Pkcs11Proxy.Server
