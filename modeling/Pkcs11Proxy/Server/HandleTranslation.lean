import Pkcs11Proxy.Server.GateCoverage
import Pkcs11Proxy.Server.MechanismHandles

namespace Pkcs11Proxy.Server

open Lib Pkcs11Proxy.Types

section Collect

def sentHandles (handles : List CkObjectHandle) : List UInt64 := (handles.map CkObjectHandle.value).filter fun handle => handle ≠ 0

theorem sent_handles_nil : sentHandles [] = [] := rfl

theorem sent_handles_append (first second : List CkObjectHandle) :
    sentHandles (first ++ second) = sentHandles first ++ sentHandles second := by
  rw [sentHandles, List.map_append, List.filter_append]
  rfl

theorem push_handle {handle : CkObjectHandle} {out : List UInt64} : pushHandle handle out = out ++ sentHandles [handle] := by
  rw [pushHandle, sentHandles, List.map_singleton, List.filter_singleton]
  by_cases absent : handle.value = 0 <;> simp [absent]

theorem push_params (params : CkMechanismParams CkObjectHandle) (out : List UInt64) :
    pushParamHandles params out = out ++ sentHandles params.handles := by
  induction params using nesting_induction (Q := fun mechanism =>
    ∀ out, pushNestedHandles mechanism out = out ++ sentHandles mechanism.handles) generalizing out with
  | bare mechanismType => exact (List.append_nil _).symm
  | holding mechanismType params ih => exact ih _
  | node params subs =>
    cases params with
    | kip p =>
      obtain ⟨mechanism, keyHandle, seedPresence⟩ := p
      cases mechanism with
      | none => exact push_handle
      | some mechanism =>
        rw [pushParamHandles, subs mechanism (.head _), push_handle, List.append_assoc, ← sent_handles_append]
        rfl
    | cmsSig p =>
      obtain ⟨certificate, signing, digest, contentType, requested, required⟩ := p
      rw [pushParamHandles, subs signing (.head _), subs digest (.tail _ (.head _)), push_handle, List.append_assoc,
        List.append_assoc, ← sent_handles_append, ← sent_handles_append]
      rfl
    | ecies p =>
      obtain ⟨derivation, encryption, mac, sharedData⟩ := p
      rw [pushParamHandles, subs derivation (.head _), subs encryption (.tail _ (.head _)),
        subs mac (.tail _ (.tail _ (.head _))), List.append_assoc, List.append_assoc, ← sent_handles_append, ← sent_handles_append]
      rfl
    | _ =>
      simp only [pushParamHandles, CkMechanismParams.handles, push_handle, List.append_assoc, ← sent_handles_append,
        List.cons_append, List.nil_append, sent_handles_nil, List.append_nil]

theorem collect_params (params : CkMechanismParams CkObjectHandle) : collectParamHandles params = sentHandles params.handles :=
  push_params params []

end Collect

variable {α β : Type} {value : α} {handle : CkObjectHandle}
  {validated result : ValidatedMechanismParams} {context : LogicalClientInstance}
  {table : Dict UInt64 UInt64} {handles : List UInt64} {state next : GateState}

section Remap

variable (resolve : UInt64 → Option UInt64)

def resolvable (handle : CkObjectHandle) : Bool := handle.value = 0 || (resolve handle.value).isSome

def translate (handle : CkObjectHandle) : CkObjectHandle :=
  if handle.value = 0 then handle else ⟨(resolve handle.value).getD 0⟩

variable {resolve}

def grantedIf {α : Type} (condition : Bool) (value : α) : Except CkRv α :=
  if condition then .ok value else .error .objectHandleInvalid

theorem granted_true (value : α) : grantedIf true value = .ok value := rfl

theorem granted_bind (first second : Bool) (value : α) (next : α → β) :
    (grantedIf first value >>= fun value => grantedIf second (next value)) = grantedIf (first && second) (next value) := by
  cases first <;> rfl

theorem granted_pure (condition : Bool) (value : α) (next : α → β) :
    (grantedIf condition value >>= fun value => pure (next value)) = grantedIf condition (next value) := by
  cases condition <;> rfl

theorem remap_handle_granted (handle : CkObjectHandle) :
    remapHandle resolve handle = grantedIf (resolvable resolve handle) (translate resolve handle) := by
  rw [remapHandle, resolvable, translate]
  by_cases absent : handle.value = 0
  · rw [if_pos absent, if_pos absent, decide_eq_true absent, Bool.true_or, granted_true]
  · rw [if_neg absent, if_neg absent, decide_eq_false absent, Bool.false_or]
    cases resolve handle.value <;> rfl

theorem remap_params_granted (params : CkMechanismParams CkObjectHandle) :
    remapParamHandles resolve params =
      grantedIf (params.handles.all (resolvable resolve)) (params.mapHandles (translate resolve)) := by
  induction params using nesting_induction (Q := fun mechanism => remapNestedHandles resolve mechanism =
    grantedIf (mechanism.handles.all (resolvable resolve)) (mechanism.mapHandles (translate resolve))) with
  | bare mechanismType => rfl
  | holding mechanismType params ih =>
    rw [remapNestedHandles, ih, granted_pure]
    rfl
  | node params subs =>
    cases params with
    | kip p =>
      obtain ⟨mechanism, keyHandle, seedPresence⟩ := p
      cases mechanism with
      | none => simp only [remapParamHandles, remap_handle_granted, granted_pure, CkMechanismParams.handles,
          CkMechanismParams.mapHandles, List.all_cons, List.all_nil, Bool.and_true]
      | some mechanism =>
        simp only [remapParamHandles, remap_handle_granted, subs mechanism (.head _), granted_pure, granted_bind,
          CkMechanismParams.handles, CkMechanismParams.mapHandles, List.all_cons]
    | cmsSig p =>
      obtain ⟨certificate, signing, digest, contentType, requested, required⟩ := p
      simp only [remapParamHandles, remap_handle_granted, subs signing (.head _), subs digest (.tail _ (.head _)), granted_pure,
        granted_bind, CkMechanismParams.handles, CkMechanismParams.mapHandles, List.all_cons, List.all_append]
    | ecies p =>
      obtain ⟨derivation, encryption, mac, sharedData⟩ := p
      simp only [remapParamHandles, subs derivation (.head _), subs encryption (.tail _ (.head _)),
        subs mac (.tail _ (.tail _ (.head _))), granted_pure, granted_bind, CkMechanismParams.handles, CkMechanismParams.mapHandles,
        List.all_append]
    | _ =>
      simp only [remapParamHandles, remap_handle_granted, granted_pure, granted_bind, CkMechanismParams.handles,
        CkMechanismParams.mapHandles, List.all_cons, List.all_nil, Bool.and_true, granted_true]

theorem remap_nested_granted (mechanism : CkMechanism CkObjectHandle) :
    remapNestedHandles resolve mechanism =
      grantedIf (mechanism.handles.all (resolvable resolve)) (mechanism.mapHandles (translate resolve)) := by
  obtain ⟨mechanismType, params⟩ := mechanism
  cases params with
  | none => rfl
  | some params =>
    rw [remapNestedHandles, remap_params_granted, granted_pure]
    rfl

theorem granted_ok {condition : Bool} {result : α} :
    grantedIf condition value = .ok result ↔ condition = true ∧ result = value := by
  cases condition with
  | false => simp [grantedIf]
  | true => simp [grantedIf, eq_comm]

theorem translate_resolved (found : resolvable resolve handle = true) (given : handle.value ≠ 0) :
    resolve handle.value = some (translate resolve handle).value := by
  rw [resolvable, decide_eq_false given, Bool.false_or] at found
  rw [translate, if_neg given]
  obtain ⟨backend, same⟩ := Option.isSome_iff_exists.mp found
  rw [same, Option.getD_some]

theorem substitute_ok (substituted : substituteValidatedHandles validated resolve = .ok result) :
    result = { validated with mechanism := validated.mechanism.mapHandles (translate resolve) } ∧
      ∀ handle ∈ validated.mechanism.handles, resolvable resolve handle = true := by
  rw [substituteValidatedHandles, remap_nested_granted, granted_pure] at substituted
  obtain ⟨all, same⟩ := granted_ok.mp substituted
  exact ⟨same, List.all_eq_true.mp all⟩

end Remap

section Gate

variable (env : GateEnv) {session : VirtualHandle} {backendSession : BackendHandle}

def ReadFrom (context : LogicalClientInstance) (table : Dict UInt64 UInt64) : Prop :=
  ∀ handle backend, table.lookup handle = some backend → context.objectHandles.resolve ⟨handle⟩ = some ⟨backend⟩

theorem note_read_from {handle : UInt64} (holds : ReadFrom context table) :
    ReadFrom context (noteRemapped table (handle, (context.objectHandles.resolve ⟨handle⟩).map BackendHandle.raw)) := by
  cases mapped : context.objectHandles.resolve ⟨handle⟩ with
  | none => exact holds
  | some backend =>
    intro query found read
    change Finmap.lookup query (table.insert handle backend.raw) = some found at read
    rw [dict_lookup_insert] at read
    split at read
    · rename_i same
      rw [same, mapped, ← Option.some.inj read]
    · exact holds query found read

theorem remapped_read_from :
    ReadFrom context (remappedHandles (resolveEmbedded context handles)) := by
  have loop (table : Dict UInt64 UInt64) (holds : ReadFrom context table) :
      ReadFrom context ((resolveEmbedded context handles).foldl noteRemapped table) := by
    induction handles generalizing table with
    | nil => exact holds
    | cons handle rest ih => exact ih _ (note_read_from holds)
  exact loop ∅ fun handle backend found => by simp at found

-- Every nonzero entry is the context's own and has an answer of the gate that let it
-- pass, among the calls made since `before`.
def PassedGate (context : LogicalClientInstance) (before : List GateCall) (table : Dict UInt64 UInt64) (state : GateState) : Prop :=
  ∃ calls, state.gated = before ++ calls ∧ ∀ handle backend, table.lookup handle = some backend → backend ≠ 0 →
    context.objectHandles.resolve ⟨handle⟩ = some ⟨backend⟩ ∧ (⟨⟨handle⟩, ⟨backend⟩, ⟨backend⟩⟩ : GateCall) ∈ calls

theorem or_refuse_ok {checked : Except CkRv α} (ran : orRefuse checked state = .ok value next) : checked = .ok value ∧ next = state := by
  cases checked with
  | error rv => cases ran
  | ok found =>
    cases ran
    exact ⟨rfl, rfl⟩

theorem ensure_use_keeps {object : VirtualHandle} {backendObject : BackendHandle}
    (ran : ensureUseIfKnown env session object backendSession backendObject state = .ok () next) : next = state := by
  rw [ensureUseIfKnown, get_bind] at ran
  split at ran
  · exact (or_refuse_ok ran).2
  · cases ran
    rfl

variable {before : List GateCall}

theorem passed_gate_zero
    (handle : UInt64) (holds : PassedGate context before table state) : PassedGate context before (table.insert handle 0) state := by
  obtain ⟨calls, since, entries⟩ := holds
  refine ⟨calls, since, ?_⟩
  intro query found read given
  rw [dict_lookup_insert] at read
  split at read
  · exact absurd (Option.some.inj read).symm given
  · exact entries query found read given

theorem passed_gate_answer {handle backend : UInt64} {answer : BackendHandle} (holds : PassedGate context before table state)
    (mapped : context.objectHandles.resolve ⟨handle⟩ = some ⟨backend⟩)
    (ran : gateObjectHandle env session ⟨handle⟩ backendSession ⟨backend⟩ state = .ok answer next) :
    PassedGate context before (table.insert handle answer.raw) next := by
  obtain ⟨calls, since, entries⟩ := holds
  obtain ⟨judged, learned, answered⟩ := gate_answers
  obtain ⟨verdict, after⟩ := EStateM.Result.ok.inj (ran.symm.trans answered)
  rw [← verdict] at after
  refine ⟨calls ++ [⟨⟨handle⟩, ⟨backend⟩, answer⟩], ?_, ?_⟩
  · rw [after, learned.gated, since, List.append_assoc]
  · intro query found read given
    rw [dict_lookup_insert] at read
    split at read
    · rename_i same
      have returned : answer.raw = found := Option.some.inj read
      split at verdict
      · rw [verdict] at returned
        rw [same, verdict, ← returned]
        exact ⟨mapped, List.mem_append_right _ (List.mem_singleton.mpr rfl)⟩
      · rw [verdict] at returned
        exact absurd returned.symm given
    · obtain ⟨own, call⟩ := entries query found read given
      exact ⟨own, List.mem_append_left _ call⟩

theorem gate_embedded_ok (context : LogicalClientInstance) (before : List GateCall) (handles : List UInt64)
    (table final : Dict UInt64 UInt64) (state next : GateState) (holds : PassedGate context before table state)
    (ran : gateEmbedded env session backendSession (resolveEmbedded context handles) table state = .ok final next) :
    PassedGate context before final next := by
  induction handles generalizing table state with
  | nil =>
    cases ran
    exact holds
  | cons handle rest ih =>
    rw [resolveEmbedded, List.map_cons, ← resolveEmbedded] at ran
    cases mapped : context.objectHandles.resolve ⟨handle⟩ with
    | none =>
      rw [mapped] at ran
      cases ran
    | some backend =>
      rw [mapped, Option.map_some, gateEmbedded] at ran
      split at ran
      · exact ih _ state (passed_gate_zero handle holds) ran
      · obtain ⟨_, used, useRan, ran⟩ := bind_ok ran
        cases ensure_use_keeps env useRan
        obtain ⟨answer, gatedAt, gateRan, ran⟩ := bind_ok ran
        exact ih _ gatedAt (passed_gate_answer env holds mapped gateRan) ran

-- How one handle reaches the backend: zero stays zero, any other handle is what the
-- caller's own context maps it to, and under a policy the gate let it pass.
def PassedOn (state next : GateState) (sent passed : CkObjectHandle) : Prop :=
  (sent.value = 0 → passed = sent) ∧
    (sent.value ≠ 0 → ∃ context, state.context = some context ∧
      context.objectHandles.resolve ⟨sent.value⟩ = some ⟨passed.value⟩ ∧
      (restrictsObjects env = true → passed.value ≠ 0 ∧ ∃ calls, next.gated = state.gated ++ calls ∧
        (⟨⟨sent.value⟩, ⟨passed.value⟩, ⟨passed.value⟩⟩ : GateCall) ∈ calls))

theorem translate_zero {resolve : UInt64 → Option UInt64} (absent : handle.value = 0) :
    translate resolve handle = handle := if_pos absent

theorem remap_collected_ok (ran : remapCollected env session backendSession validated handles state = .ok result next) :
    ∃ f, result = { validated with mechanism := validated.mechanism.mapHandles f } ∧
      ∀ sent ∈ validated.mechanism.handles, PassedOn env state next sent (f sent) := by
  rw [remapCollected, get_bind] at ran
  cases held : state.context with
  | none =>
    rw [held] at ran
    cases ran
  | some context =>
    rw [held] at ran
    dsimp only at ran
    split at ran
    · obtain ⟨gated, gatedAt, gateRan, ran⟩ := bind_ok ran
      obtain ⟨substituted, rfl⟩ := or_refuse_ok ran
      obtain ⟨same, all⟩ := substitute_ok substituted
      obtain ⟨calls, since, entries⟩ := gate_embedded_ok env context state.gated handles ∅ gated state next
        ⟨[], (List.append_nil _).symm, fun handle backend found => by simp at found⟩ gateRan
      refine ⟨translate (permittedHandle gated), same, fun sent member => ⟨translate_zero, fun given => ?_⟩⟩
      have found := translate_resolved (all sent member) given
      obtain ⟨entry, nonzero⟩ := Option.filter_eq_some_iff.mp found
      have passed := of_decide_eq_true nonzero
      obtain ⟨own, call⟩ := entries sent.value _ entry passed
      exact ⟨context, held, own, fun _ => ⟨passed, calls, since, call⟩⟩
    · rename_i restricted
      obtain ⟨_, usedAt, useRan, ran⟩ := bind_ok ran
      obtain ⟨substituted, -⟩ := or_refuse_ok ran
      obtain ⟨same, all⟩ := substitute_ok substituted
      refine ⟨_, same, fun sent member => ⟨translate_zero, fun given => ?_⟩⟩
      have found := translate_resolved (all sent member) given
      exact ⟨context, held, remapped_read_from sent.value _ found, fun active => absurd active restricted⟩

theorem remap_mechanism_ok {validated result : ValidatedMechanismParams} {state next : GateState}
    (ran : remapMechanismHandles env session backendSession validated state = .ok result next) :
    ∃ f, result = { validated with mechanism := validated.mechanism.mapHandles f } ∧
      ∀ sent ∈ validated.mechanism.handles, PassedOn env state next sent (f sent) := by
  rw [remapMechanismHandles] at ran
  obtain ⟨⟨mechanismType, params⟩, grant, registry, localAbi, backendAbi⟩ := validated
  cases params with
  | none =>
    cases ran
    exact ⟨id, rfl, nofun⟩
  | some params =>
    dsimp only at ran
    split at ran
    · rename_i noHandles
      cases ran
      have absent (sent : CkObjectHandle) (member : sent ∈ params.handles) : sent.value = 0 := by
        by_contra given
        have listed : sent.value ∈ collectParamHandles params := by
          rw [collect_params, sentHandles, List.mem_filter]
          exact ⟨List.mem_map_of_mem member, decide_eq_true given⟩
        rw [List.isEmpty_iff.mp noHandles] at listed
        cases listed
      refine ⟨id, ?_, fun sent member => ⟨fun _ => rfl, fun given => absurd (absent sent member) given⟩⟩
      rw [CkMechanism.mapHandles, map_handles_id]
    · exact remap_collected_ok env ran

end Gate

theorem all_resolvable (resolve : UInt64 → Option UInt64) (handles : List CkObjectHandle) :
    handles.all (resolvable resolve) = true ↔ ∀ handle ∈ sentHandles handles, (resolve handle).isSome = true := by
  rw [List.all_eq_true]
  constructor
  · intro found handle listed
    obtain ⟨member, given⟩ := List.mem_filter.mp listed
    obtain ⟨sent, held, rfl⟩ := List.mem_map.mp member
    exact Option.isSome_iff_exists.mpr ⟨_, translate_resolved (found sent held) (of_decide_eq_true given)⟩
  · intro found sent held
    by_cases absent : sent.value = 0
    · rw [resolvable, decide_eq_true absent, Bool.true_or]
    · rw [resolvable, found sent.value (List.mem_filter.mpr ⟨List.mem_map_of_mem held, decide_eq_true absent⟩), Bool.or_true]

-- The walks over the parameters agree on the handles, whatever the resolver; and what the
-- remapper returns holds the caller's own backend handles.
theorem embedded_handles_translated :
    (∀ (K : Type) (f g : CkObjectHandle → K) (params : CkMechanismParams CkObjectHandle),
      params.mapHandles f = params.mapHandles g ↔ ∀ handle ∈ params.handles, f handle = g handle) ∧
    (∀ params : CkMechanismParams CkObjectHandle,
      collectParamHandles params = (params.handles.map CkObjectHandle.value).filter fun handle => handle ≠ 0) ∧
    (∀ (params : CkMechanismParams CkObjectHandle) (resolve : UInt64 → Option UInt64),
      (∃ remapped, remapParamHandles resolve params = .ok remapped) ↔
        ∀ handle ∈ collectParamHandles params, (resolve handle).isSome = true) ∧
    (∀ (params remapped : CkMechanismParams CkObjectHandle) (resolve : UInt64 → Option UInt64),
      remapParamHandles resolve params = .ok remapped → ∃ f, remapped = params.mapHandles f ∧
        ∀ handle ∈ params.handles, (handle.value = 0 → f handle = handle) ∧
          (handle.value ≠ 0 → resolve handle.value = some (f handle).value)) ∧
    (∀ (env : GateEnv) (session : VirtualHandle) (backendSession : BackendHandle) (validated result : ValidatedMechanismParams)
      (state next : GateState), remapMechanismHandles env session backendSession validated state = .ok result next →
        ∃ f, result = { validated with mechanism := validated.mechanism.mapHandles f } ∧
          ∀ sent ∈ validated.mechanism.handles, PassedOn env state next sent (f sent)) := by
  refine ⟨fun K => map_handles_congr, collect_params, ?_, ?_, remap_mechanism_ok⟩
  · intro params resolve
    rw [collect_params, ← all_resolvable, remap_params_granted]
    simp [granted_ok]
  · intro params remapped resolve ran
    rw [remap_params_granted] at ran
    obtain ⟨all, same⟩ := granted_ok.mp ran
    have found := List.all_eq_true.mp all
    exact ⟨translate resolve, same, fun handle member =>
      ⟨translate_zero, translate_resolved (found handle member)⟩⟩

def kipOverHkdf : ValidatedMechanismParams where
  mechanism := ⟨⟨0x510⟩, some (.kip ⟨some ⟨⟨0x402a⟩, some (.hkdf ⟨true, true, ⟨0x250⟩, 4, ⟨1⟩, .null 0, .null 0⟩)⟩, ⟨1⟩, .null 0⟩)⟩
  flatGrant := none
  registry := ⟨∅, ∅, ∅⟩
  localAbi := .lp64NativeLe
  backendAbi := .lp64NativeLe

theorem embedded_handles_translated_kip :
    ∃ result next f, remapMechanismHandles (keyEnv (grantPolicy none (some [⟨[7], none⟩]))) ⟨1⟩ ⟨0x10⟩ kipOverHkdf
        ⟨some keyContext, ∅, [], none⟩ = .ok result next ∧
      result.mechanism = kipOverHkdf.mechanism.mapHandles f ∧ f ⟨1⟩ = ⟨0x20⟩ ∧
      (⟨⟨1⟩, ⟨0x20⟩, ⟨0x20⟩⟩ : GateCall) ∈ next.gated := by
  obtain ⟨result, next, ran⟩ := runs_of_some (remapMechanismHandles (keyEnv (grantPolicy none (some [⟨[7], none⟩]))) ⟨1⟩ ⟨0x10⟩
    kipOverHkdf) ⟨some keyContext, ∅, [], none⟩ (by decide +kernel)
  obtain ⟨f, same, each⟩ := embedded_handles_translated.2.2.2.2 _ _ _ _ _ _ _ ran
  obtain ⟨context, held, mapped, gated⟩ := (each ⟨1⟩ (.head _)).2 (by decide)
  cases held
  have passed : f ⟨1⟩ = ⟨0x20⟩ := by
    exact congrArg (fun handle : BackendHandle => (⟨handle.raw⟩ : CkObjectHandle)) (Option.some.inj mapped).symm
  obtain ⟨-, calls, since, call⟩ := gated (by decide)
  rw [passed] at call
  exact ⟨result, next, f, ran, congrArg ValidatedMechanismParams.mechanism same, passed, since ▸ call⟩

end Pkcs11Proxy.Server
