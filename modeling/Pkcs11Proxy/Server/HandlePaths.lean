import Pkcs11Proxy.Server.GateSteps

namespace Pkcs11Proxy.Server

open Lib Pkcs11Proxy.Types

def objectMapping (context : Option LogicalClientInstance) (wire : UInt64) : Option BackendHandle :=
  context.bind fun context => context.objectHandles.resolve ⟨wire⟩

variable {width : Nat} {bytes : Bytes} {α : Type} {session object : VirtualHandle}
  {backendSession backendObject : BackendHandle} {wire : UInt64} {sent : Sp800108DataParam}
  {restSent restPassed : List Sp800108DataParam}

section Bytes

theorem to_ne_bytes_length (width n : Nat) : (toNeBytes width n).length = width := by
  induction width generalizing n with
  | zero => rfl
  | succ width ih => simp only [toNeBytes, List.length_cons, ih]

theorem from_to_ne_bytes {n : Nat} (fits : n < 256 ^ width) : fromNeBytes (toNeBytes width n) = n := by
  induction width generalizing n with
  | zero => simp only [Nat.pow_zero] at fits; simp only [toNeBytes, fromNeBytes]; omega
  | succ width ih =>
    have rest : n / 256 < 256 ^ width := by
      omega
    simp only [toNeBytes, fromNeBytes, ih rest, UInt8.toNat_ofNat']
    omega

theorem read_written_key_handle {handle : UInt64}
    (written : writeSp800108KeyHandleValue handle width = .ok bytes) : readSp800108KeyHandleValue bytes = .ok (handle, width) := by
  unfold writeSp800108KeyHandleValue at written
  split at written
  · rename_i eight
    cases written
    have fits : handle.toNat < 256 ^ 8 := handle.toNat_lt
    rw [readSp800108KeyHandleValue, to_ne_bytes_length, if_pos rfl, from_to_ne_bytes fits, UInt64.ofNat_toNat, eight]
  · split at written
    · rename_i four
      split at written
      · rename_i fits
        cases written
        rw [readSp800108KeyHandleValue, to_ne_bytes_length, if_neg (by decide), if_pos rfl, from_to_ne_bytes fits,
          UInt64.ofNat_toNat, four]
      · cases written
    · cases written

end Bytes

section Paths

variable (env : GateEnv) (start : Option LogicalClientInstance)

def Passable (gated : List GateCall) (handle : PassedHandle) : Prop :=
  (restrictsObjects env = true → handle.backend ≠ ⟨0⟩ → ⟨⟨handle.wire⟩, handle.backend, handle.backend⟩ ∈ gated) ∧
    (handle.zeroIsNone = true → handle.wire ≠ 0 → objectMapping start handle.wire = some handle.backend)

def Covered (final : GateState) : Prop :=
  ∀ operation, final.dispatched = some operation → ∀ handle ∈ operation.objects, Passable env start final.gated handle

structure Serving (handles : List PassedHandle) (state : GateState) : Prop where
  fixed : state.context.map LogicalClientInstance.fixed = start.map LogicalClientInstance.fixed
  idle : state.dispatched = none
  passable : ∀ handle ∈ handles, Passable env start state.gated handle

def Idle (state : GateState) : Prop := state.dispatched = none

variable {env start}

theorem object_mapping_fixed {context other : Option LogicalClientInstance}
    (same : other.map LogicalClientInstance.fixed = context.map LogicalClientInstance.fixed) :
    objectMapping other wire = objectMapping context wire := by
  have read (c : Option LogicalClientInstance) :
      objectMapping c wire = (c.map LogicalClientInstance.fixed).bind fun fixed => fixed.2.2.1.resolve ⟨wire⟩ := by
    cases c <;> rfl
  rw [read, read, same]

theorem passable_grows {gated more : List GateCall} {handle : PassedHandle} (held : Passable env start gated handle) :
    Passable env start (gated ++ more) handle :=
  ⟨fun active nonzero => List.mem_append_left more (held.1 active nonzero), held.2⟩

variable {handles : List PassedHandle} {checked : Except CkRv α}

theorem outcomes_or_refuse : Outcomes (Serving env start handles) (orRefuse checked)
    (fun value state => checked = .ok value ∧ Serving env start handles state) Idle := by
  cases checked with
  | ok value => exact outcomes_pure fun _ serving => ⟨rfl, serving⟩
  | error rv =>
    constructor
    · intro state value next ran
      cases ran
    · intro state error next ran serving
      cases ran
      exact serving.idle

theorem outcomes_throw {rv : CkRv} {post : α → GateState → Prop} :
    Outcomes (Serving env start handles) (throw rv : GateM α) post Idle where
  ends state value next ran := by cases ran
  fails state error next ran serving := by
    cases ran
    exact serving.idle

theorem outcomes_ensure :
    Outcomes (Serving env start handles) (ensureUseIfKnown env session object backendSession backendObject)
      (fun _ => Serving env start handles) Idle := by
  apply outcomes_get
  intro state
  apply outcomes_ite
  · intro _
    exact outcomes_weaken _ _ (fun _ given => given.2) (fun _ _ done => done.2) (fun _ idle => idle) outcomes_or_refuse
  · intro _
    exact outcomes_pure fun _ given => given.2

theorem outcomes_gate_if_restricted :
    Outcomes (Serving env start handles) (gateIfRestricted env session object backendSession backendObject)
      (fun returned state => Serving env start (⟨object.raw, returned, false⟩ :: handles) state ∧
        (returned = backendObject ∨ returned = ⟨0⟩)) Idle := by
  apply outcomes_ite
  · intro active
    constructor
    · intro state value next ran serving
      obtain ⟨judged, learned, answered⟩ := gate_answers
      rw [ran] at answered
      cases answered
      refine ⟨⟨learned.fixed.trans serving.fixed, learned.dispatched.trans serving.idle, ?_⟩, ?_⟩
      · intro handle member
        rw [learned.gated]
        rcases List.mem_cons.mp member with rfl | earlier
        · refine ⟨fun _ nonzero => ?_, nofun⟩
          apply List.mem_append_right
          by_cases admitted : gateAdmits env state session object backendSession backendObject = true
          · simp only [if_pos admitted, List.mem_singleton]
          · simp only [if_neg admitted, ne_eq, not_true_eq_false] at nonzero
        · exact passable_grows (serving.passable handle earlier)
      · split
        · exact .inl rfl
        · exact .inr rfl
    · intro state error next ran
      obtain ⟨judged, -, answered⟩ := gate_answers
      rw [ran] at answered
      cases answered
  · intro inactive
    apply outcomes_pure
    intro state serving
    refine ⟨⟨serving.fixed, serving.idle, ?_⟩, .inl rfl⟩
    intro handle member
    rcases List.mem_cons.mp member with rfl | earlier
    · refine ⟨fun active nonzero => ?_, nofun⟩
      exact absurd (by simp [active, nonzero]) inactive
    · exact serving.passable handle earlier

theorem outcomes_dispatch {session : BackendHandle} {objects : List PassedHandle} (listed : ∀ handle ∈ objects, handle ∈ handles) :
    Outcomes (Serving env start handles) (dispatch ⟨session, objects⟩) (fun _ => Covered env start) Idle := by
  apply outcomes_modify
  intro state serving operation made handle member
  cases made
  exact serving.passable handle (listed handle member)

theorem outcomes_check :
    Outcomes (Serving env start handles) (orRefuse checked) (fun _ => Serving env start handles) Idle :=
  outcomes_post _ (fun _ _ done => done.2) outcomes_or_refuse

theorem outcomes_session_and_handle {staleRv : CkRv} :
    Outcomes (Serving env start handles) (resolveSessionAndHandle env session object staleRv)
      (fun resolved => Serving env start (⟨object.raw, resolved.2, false⟩ :: handles)) Idle := by
  apply outcomes_read
  intro read
  cases read.context with
  | none => exact outcomes_throw
  | some context =>
    apply outcomes_bind _ outcomes_check
    intro backendSession
    apply outcomes_ite
    · intro _
      exact outcomes_throw
    · intro _
      apply outcomes_bind _ outcomes_ensure
      intro _
      apply outcomes_bind _ outcomes_gate_if_restricted
      intro gated
      exact outcomes_pure fun _ done => done.1

theorem outcomes_two_objects {first second : VirtualHandle} :
    Outcomes (Serving env start handles) (resolveSessionAndTwoObjects env session first second)
      (fun resolved => Serving env start (⟨second.raw, resolved.2.2, false⟩ :: ⟨first.raw, resolved.2.1, false⟩ :: handles)) Idle := by
  apply outcomes_read
  intro read
  cases read.context with
  | none => exact outcomes_throw
  | some context =>
    apply outcomes_bind _ outcomes_check
    intro backendSession
    apply outcomes_ite
    · intro _
      exact outcomes_throw
    · intro _
      apply outcomes_ite
      · intro _
        exact outcomes_throw
      · intro _
        apply outcomes_bind _ outcomes_ensure
        intro _
        apply outcomes_bind _ outcomes_ensure
        intro _
        apply outcomes_bind _ outcomes_gate_if_restricted
        intro firstGated
        apply outcomes_bind (fun returned => Serving env start (⟨second.raw, returned, false⟩ :: ⟨first.raw, firstGated, false⟩ :: handles))
        · exact outcomes_weaken _ _ (fun _ done => done.1) (fun _ _ done => done.1) (fun _ idle => idle) outcomes_gate_if_restricted
        · intro secondGated
          exact outcomes_pure fun _ serving => serving

theorem outcomes_key_slot :
    Outcomes (Serving env start handles) (resolveSp800108KeyHandleSlot env session backendSession wire)
      (fun final => Serving env start (⟨wire, ⟨final⟩, true⟩ :: handles)) Idle := by
  apply outcomes_get
  intro read
  apply outcomes_given (objectMapping read.context wire = objectMapping start wire)
  · rintro state ⟨rfl, serving⟩
    exact object_mapping_fixed serving.fixed
  intro mapped
  apply outcomes_pre (Serving env start handles) (fun _ given => given.2)
  cases found : objectMapping read.context wire with
  | none =>
    rw [show (read.context.bind fun context => context.objectHandles.resolve ⟨wire⟩) = none from found]
    exact outcomes_throw
  | some backend =>
    rw [show (read.context.bind fun context => context.objectHandles.resolve ⟨wire⟩) = some backend from found]
    apply outcomes_bind _ outcomes_ensure
    intro _
    apply outcomes_bind _ outcomes_gate_if_restricted
    intro final
    apply outcomes_ite
    · intro _
      exact outcomes_pre _ (fun _ done => done.1) outcomes_throw
    · intro kept
      apply outcomes_pure
      rintro state ⟨serving, returns⟩
      refine ⟨serving.fixed, serving.idle, ?_⟩
      intro handle member
      rcases List.mem_cons.mp member with rfl | earlier
      · refine ⟨(serving.passable ⟨wire, final, false⟩ (by simp)).1, fun _ nonzero => ?_⟩
        rcases returns with same | zero
        · rw [← mapped, found, same]
        · exact absurd ⟨nonzero, zero⟩ kept
      · exact serving.passable handle (List.mem_cons_of_mem _ earlier)

theorem key_handles_passed_key {final : UInt64} (isKey : sent.kind = ckSp800108KeyHandle)
    (read : readSp800108KeyHandleValue (sent.value.getD []) = .ok (wire, width))
    (written : writeSp800108KeyHandleValue final width = .ok bytes) :
    keyHandlesPassed (sent :: restSent) ({ sent with value := some bytes } :: restPassed) =
      ⟨wire, ⟨final⟩, true⟩ :: keyHandlesPassed restSent restPassed := by
  have atSent : sent.keyHandle = some wire := by
    rw [Sp800108DataParam.keyHandle, if_pos isKey, read]
  have atPassed : Sp800108DataParam.keyHandle { sent with value := some bytes } = some final := by
    rw [Sp800108DataParam.keyHandle, if_pos isKey, Option.getD_some, read_written_key_handle written]
  rw [keyHandlesPassed, atSent, atPassed]

theorem key_handles_passed_other {passed : Sp800108DataParam} (notKey : sent.kind ≠ ckSp800108KeyHandle) :
    keyHandlesPassed (sent :: restSent) (passed :: restPassed) = keyHandlesPassed restSent restPassed := by
  rw [keyHandlesPassed, Sp800108DataParam.keyHandle, if_neg notKey]

variable (handles) in
theorem outcomes_data_params {params : List Sp800108DataParam} :
    Outcomes (Serving env start handles) (resolveSp800108KeyHandleDataParams env session backendSession params)
      (fun passed => Serving env start (keyHandlesPassed params passed ++ handles)) Idle := by
  induction params generalizing handles with
  | nil => exact outcomes_pure fun _ serving => serving
  | cons param rest ih =>
    apply outcomes_ite
    · intro notKey
      apply outcomes_bind _ (ih handles)
      intro others
      apply outcomes_pure
      intro state serving
      rw [key_handles_passed_other notKey]
      exact serving
    · intro isKey
      have key : param.kind = ckSp800108KeyHandle := not_not.mp isKey
      apply outcomes_bind _ outcomes_or_refuse
      rintro ⟨wire, width⟩
      apply outcomes_given (readSp800108KeyHandleValue (param.value.getD []) = .ok (wire, width))
      · exact fun _ given => given.1
      intro read
      apply outcomes_pre (Serving env start handles) (fun _ given => given.2)
      apply outcomes_bind _ outcomes_key_slot
      intro final
      apply outcomes_bind _ outcomes_or_refuse
      intro bytes
      apply outcomes_given (writeSp800108KeyHandleValue final width = .ok bytes)
      · exact fun _ given => given.1
      intro written
      apply outcomes_pre (Serving env start (⟨wire, ⟨final⟩, true⟩ :: handles)) (fun _ given => given.2)
      apply outcomes_bind _ (ih (⟨wire, ⟨final⟩, true⟩ :: handles))
      intro others
      apply outcomes_pure
      intro state serving
      rw [key_handles_passed_key key read written]
      refine ⟨serving.fixed, serving.idle, fun handle member => serving.passable handle ?_⟩
      simp only [List.cons_append, List.mem_cons, List.mem_append] at member ⊢
      tauto

end Paths

end Pkcs11Proxy.Server
